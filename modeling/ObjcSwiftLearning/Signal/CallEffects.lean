import ObjcSwiftLearning.Signal.CallFrames

/-!
# What a step comes to

Most handlers do one of a few things: they leave the calls alone, fail one of them, move the current
one on, or end it because the remote party has hung up.  Every handler is read here once, and what
is shown of calls, records and media goes by what it comes to.

* `CallService.Known` — nothing is under way for a call that there has not been.
* `CallService.Quiet` — calls, records and media stay, and blocks that settle nothing are queued.
* `CallService.Ordinary` — what most handlers come to.
* `CallService.Fulfilled` — what the handler of a promise comes to.
* `CallService.Effect`, `CallService.effect_of_step` — what every step comes to.
-/

namespace ObjcSwiftLearning.Signal

def CallBlock.call : CallBlock → ℕ
  | .fulfilled call _ | .rejected call _ | .setUpEnded call | .localIceCandidate call
  | .remoteDescriptionFailed call _ => call
  | .remoteIceUpdate update => update.call

/-- A handler of the promise of the call. -/
def CallBlock.Handles (call : ℕ) : CallBlock → Prop
  | .fulfilled other _ | .rejected other _ => other = call
  | _ => False

/-- The next state on the way to being connected, when the network comes or goes. -/
inductive CallState.Advances : CallState → CallState → Prop
  | remoteRinging : Advances .dialing .remoteRinging
  | localRinging : Advances .answering .localRinging
  | reconnecting : Advances .connected .reconnecting
  | reconnected : Advances .reconnecting .connected

/-- What the set-up of the current call goes by. -/
def SignalCallData.setUp (callData : SignalCallData) : ℕ × Bool × Option ℕ :=
  (callData.call, callData.isCallConnected, callData.peerConnectionClient)

/-- What is asked of a client, but for its connection. -/
def PeerConnectionClient.tracks (client : PeerConnectionClient) : Bool × Bool × Bool :=
  (client.isTerminated, client.audioEnabled, client.videoEnabled)

namespace CallService

variable {s s' : CallService} {call client : ℕ} {block : CallBlock} {blocks : List CallBlock}
  {error : CallError} {callData callData' : SignalCallData} {promise : CallPromise}
  {contact : String} {callId : UInt64} {event : Event} {a : SignalCall} {other : ℕ}

/-! ## Calls there have been -/

/-- Nothing is under way for a call that there has not been. -/
structure Known (s : CallService) : Prop where
  promises : ∀ call, s.promises call ≠ none → call < s.callCount
  mainQueue : ∀ block ∈ s.mainQueue, block.call < s.callCount
  waitingForClient : ∀ update ∈ s.waitingForClient, update.call < s.callCount
  waitingForReadiness : ∀ call ∈ s.waitingForReadiness, call < s.callCount
  remoteDescriptions : ∀ call ∈ s.remoteDescriptions, call < s.callCount
  backgroundTasks : ∀ call ∈ s.backgroundTasks, call < s.callCount

theorem Known.of_rest (hrest : s'.rest = s.rest) (h : s.Known) : s'.Known := by
  have hknown : s.rest.Known := { h with }
  rw [← hrest] at hknown
  exact { hknown with }

theorem Known.append (h : s.Known) (hblocks : ∀ block ∈ blocks, block.call < s.callCount) :
    ∀ block ∈ s.mainQueue ++ blocks, block.call < s.callCount := by
  intro block hblock
  rcases List.mem_append.mp hblock with hold | hnew
  · exact h.mainQueue block hold
  · exact hblocks block hnew

theorem Known.dispatch (h : s.Known) (hblock : block.call < s.callCount) :
    (s.dispatch block).Known :=
  { h with
    mainQueue := h.append (List.forall_mem_singleton.mpr hblock) }

theorem Known.wait (promise : Option CallPromise) (h : s.Known) (hcall : call < s.callCount) :
    (s.wait call promise).Known := by
  refine { h with promises := fun other hother => ?_ }
  by_cases heq : other = call
  · exact heq ▸ hcall
  · refine h.promises other ?_
    rwa [promises_wait_of_ne heq] at hother

/-- The first block is taken off the queue. -/
def popped (s : CallService) : CallService :=
  { s with mainQueue := s.mainQueue.tail }

/-! ## Steps that change no call -/

/-- A block that settles no promise, and is no ICE update of an earlier call. -/
def Incidental (s : CallService) (block : CallBlock) : Prop :=
  (∀ call promise, block ≠ .fulfilled call promise) ∧
    ∀ update, block = .remoteIceUpdate update → s.call = some update.call

/-- Calls, records and media stay, and blocks that settle nothing are queued. -/
structure Quiet (s s' : CallService) : Prop where
  known : s.Known → s'.Known
  calls : s'.calls = s.calls
  callRecords : s'.callRecords = s.callRecords
  callCount : s'.callCount = s.callCount
  clientCount : s'.clientCount = s.clientCount
  isInBackground : s'.isInBackground = s.isInBackground
  promises : s'.promises = s.promises
  setUp : s'.callData.map SignalCallData.setUp = s.callData.map SignalCallData.setUp
  tracks : ∀ client, (s'.clients client).tracks = (s.clients client).tracks
  mainQueue : ∃ blocks, s'.mainQueue = s.mainQueue ++ blocks ∧ ∀ block ∈ blocks, s.Incidental block

theorem Quiet.refl : Quiet s s where
  known := id
  calls := rfl
  callRecords := rfl
  callCount := rfl
  clientCount := rfl
  isInBackground := rfl
  promises := rfl
  setUp := rfl
  tracks _ := rfl
  mainQueue := ⟨[], (List.append_nil _).symm, by simp⟩

theorem Quiet.current (h : Quiet s s') (hdata' : s'.callData = some callData') :
    ∃ callData, s.callData = some callData ∧ callData'.call = callData.call ∧
      callData'.isCallConnected = callData.isCallConnected ∧
        callData'.peerConnectionClient = callData.peerConnectionClient := by
  have hsetUp := h.setUp
  rw [hdata', Option.map_some] at hsetUp
  obtain ⟨callData, hdata, hsame⟩ := Option.map_eq_some_iff.mp hsetUp.symm
  exact ⟨callData, hdata, (congrArg Prod.fst hsame).symm,
    (congrArg (·.2.1) hsame).symm, (congrArg (·.2.2) hsame).symm⟩

theorem Quiet.call_eq (h : Quiet s s') : s'.call = s.call := by
  have hcall := congrArg (Option.map Prod.fst) h.setUp
  rwa [Option.map_map, Option.map_map] at hcall

theorem Quiet.client_eq (h : Quiet s s') : s'.peerConnectionClient = s.peerConnectionClient := by
  have hclient := congrArg (·.bind (·.2.2)) h.setUp
  rwa [Option.bind_map, Option.bind_map] at hclient

theorem quiet_dispatch (hblock : block.call < s.callCount) (hincidental : s.Incidental block) :
    Quiet s (s.dispatch block) :=
  { Quiet.refl with
    known := fun h => h.dispatch hblock
    mainQueue := ⟨[block], rfl, List.forall_mem_singleton.mpr hincidental⟩ }

theorem quiet_modifyClient {f : PeerConnectionClient → PeerConnectionClient}
    (hf : ∀ client, (f client).tracks = client.tracks) : Quiet s (s.modifyClient client f) := by
  refine { Quiet.refl with
    known := .of_rest rest_modifyClient
    tracks := fun other => ?_ }
  by_cases hother : other = client
  · rw [hother, clients_modifyClient_self, hf]
  · rw [clients_modifyClient_of_ne hother]

theorem quiet_endBackgroundTask :
    Quiet s { s with backgroundTasks := s.backgroundTasks.filter (· ≠ call) } :=
  { Quiet.refl with
    known := fun h => { h with
      backgroundTasks := fun other hother =>
        h.backgroundTasks other (List.mem_of_mem_filter hother) } }

theorem incidental_setUpEnded : s.Incidental (.setUpEnded call) :=
  ⟨nofun, nofun⟩

theorem incidental_localIceCandidate : s.Incidental (.localIceCandidate call) :=
  ⟨nofun, nofun⟩

/-! ## What most handlers come to -/

inductive Ordinary (s : CallService) : CallService → Prop
  | quiet {s' : CallService} (h : Quiet s s') : Ordinary s s'
  /-- A call fails, of which a handler may have taken or left something. -/
  | failed {t s' : CallService} {call : ℕ} {error : CallError} (before : Quiet s t)
      (hlt : call < s.callCount) (after : Quiet (t.handleFailedCall (some call) error) s') :
      Ordinary s s'
  | advanced {call : ℕ} {state : CallState} (hcall : s.call = some call)
      (h : (s.calls call).state.Advances state) : Ordinary s (s.setState call state)
  | hungUp {call : ℕ} (hcall : s.call = some call) :
      Ordinary s ((s.handleMissedIfHungUp call).setState call .remoteHangup).terminateCall
  | video {call : ℕ} (hasLocalVideo : Bool) (hcall : s.call = some call) :
      Ordinary s (s.modifyCall call fun signalCall =>
        { signalCall with hasLocalVideo }).updateIsVideoEnabled

theorem ordinary_refl : Ordinary s s :=
  .quiet .refl

theorem callData_of_call_none (hcall : s.call = none) : s.callData = none :=
  Option.map_eq_none_iff.mp hcall

theorem ordinary_handleFailedCall (hlt : call < s.callCount) :
    Ordinary s (s.handleFailedCall (some call) error) :=
  .failed .refl hlt .refl

/-- The second time that video is asked for changes nothing. -/
theorem setHasLocalVideo_eq {hasLocalVideo : Bool} (hcall : s.call = some call) :
    s.setHasLocalVideo hasLocalVideo = (s.modifyCall call fun signalCall =>
      { signalCall with hasLocalVideo }).updateIsVideoEnabled := by
  rw [setHasLocalVideo, hcall]
  dsimp only
  cases hclient : s.peerConnectionClient with
  | none => rfl
  | some client =>
      have hvideo : ∀ t : CallService, t.peerConnectionClient = some client →
          t.updateIsVideoEnabled.setLocalVideoEnabled client
            t.updateIsVideoEnabled.shouldHaveLocalVideoTrack = t.updateIsVideoEnabled := by
        intro t ht
        rw [updateIsVideoEnabled, ht]
        simp only [setLocalVideoEnabled, modifyClient, Function.update_self, Function.update_idem]
        rfl
      dsimp only
      split
      · exact hvideo _ hclient
      · rfl

section

variable (hcurrent : ∀ call, s.call = some call → call < s.callCount)
include hcurrent

theorem ordinary_handleFailedCurrentCall : Ordinary s (s.handleFailedCurrentCall error) := by
  rw [handleFailedCurrentCall]
  cases hcall : s.call with
  | none =>
      change Ordinary s s.terminateCall
      rw [terminateCall_of_none (callData_of_call_none hcall)]
      exact ordinary_refl
  | some call => exact ordinary_handleFailedCall (hcurrent call hcall)

theorem ordinary_handleReceivedAnswer {sessionDescription : String} :
    Ordinary s (s.handleReceivedAnswer callId sessionDescription) := by
  rw [handleReceivedAnswer]
  split
  · exact ordinary_refl
  · next call hcall =>
      split
      · exact ordinary_refl
      · split
        · exact ordinary_handleFailedCall (hcurrent call hcall)
        · next client _ =>
            have hdescription : Quiet s (s.modifyClient client fun client =>
                { client with
                  remoteSessionDescriptions :=
                    client.remoteSessionDescriptions ++ [sessionDescription] }) :=
              quiet_modifyClient fun _ => rfl
            refine .quiet { hdescription with
              known := fun hknown => { hdescription.known hknown with
                remoteDescriptions := fun other hother => ?_ } }
            rcases List.mem_append.mp hother with hold | hnew
            · exact hknown.remoteDescriptions other hold
            · exact List.mem_singleton.mp hnew ▸ hcurrent call hcall

/-! ### ICE -/

theorem ordinary_handleRemoteAddedIceCandidate {candidate : RTCIceCandidate} :
    Ordinary s (s.handleRemoteAddedIceCandidate contact callId candidate) := by
  rw [handleRemoteAddedIceCandidate]
  cases hdata : s.callData with
  | none => exact ordinary_refl
  | some callData =>
      have hcall := call_of_some hdata
      have hlt := hcurrent _ hcall
      dsimp only
      split
      · refine .quiet (quiet_dispatch hlt ⟨nofun, fun update hupdate => ?_⟩)
        rw [CallBlock.remoteIceUpdate.injEq] at hupdate
        rw [← hupdate]
        exact hcall
      · refine .quiet { @Quiet.refl s with
          known := fun hknown => { hknown with
            waitingForClient := fun update hupdate => ?_ }
          setUp := by rw [hdata] }
        rcases List.mem_append.mp hupdate with hold | hnew
        · exact hknown.waitingForClient update hold
        · rw [List.mem_singleton.mp hnew]
          exact hlt

theorem ordinary_handleLocalAddedIceCandidate : Ordinary s s.handleLocalAddedIceCandidate := by
  rw [handleLocalAddedIceCandidate]
  cases hdata : s.callData with
  | none => exact ordinary_handleFailedCurrentCall hcurrent
  | some callData =>
      have hlt := hcurrent _ (call_of_some hdata)
      dsimp only
      split
      · exact .quiet (quiet_dispatch hlt incidental_localIceCandidate)
      · refine .quiet { @Quiet.refl s with
          known := fun hknown => { hknown with
            waitingForReadiness := fun other hother => ?_ }
          setUp := by rw [hdata] }
        rcases List.mem_append.mp hother with hold | hnew
        · exact hknown.waitingForReadiness other hold
        · rw [List.mem_singleton.mp hnew]
          exact hlt

theorem ordinary_sendLocalIceCandidate : Ordinary s (s.sendLocalIceCandidate call) := by
  rw [sendLocalIceCandidate]
  split
  · exact ordinary_handleFailedCurrentCall hcurrent
  · split
    · exact ordinary_handleFailedCurrentCall hcurrent
    · exact ordinary_refl

theorem ordinary_handleIceConnected : Ordinary s s.handleIceConnected := by
  rw [handleIceConnected]
  split
  · exact ordinary_handleFailedCurrentCall hcurrent
  · next call hcall =>
      split
      · next hstate => exact .advanced hcall (by rw [hstate]; exact .remoteRinging)
      · next hstate => exact .advanced hcall (by rw [hstate]; exact .localRinging)
      · next hstate => exact .advanced hcall (by rw [hstate]; exact .reconnected)
      · exact ordinary_refl

theorem ordinary_handleIceDisconnected : Ordinary s s.handleIceDisconnected := by
  rw [handleIceDisconnected]
  split
  · exact ordinary_handleFailedCurrentCall hcurrent
  · next call hcall =>
      split
      · next hstate => exact .advanced hcall (by rw [hstate]; exact .reconnecting)
      · exact ordinary_refl

/-! ### Hangups, timers and what was under way -/

theorem ordinary_handleRemoteHangup : Ordinary s (s.handleRemoteHangup contact callId) := by
  rw [handleRemoteHangup]
  split
  · exact ordinary_handleFailedCurrentCall hcurrent
  · next call hcall =>
      split
      · exact ordinary_refl
      · split
        · exact ordinary_refl
        · exact .hungUp hcall

theorem ordinary_ensureCallScreenPresented {connectedRecently hasCallView : Bool} :
    Ordinary s (s.ensureCallScreenPresented connectedRecently hasCallView) := by
  rw [ensureCallScreenPresented]
  split
  · exact ordinary_refl
  · next call hcall =>
      split
      · exact ordinary_refl
      · split
        · exact ordinary_refl
        · split
          · exact ordinary_refl
          · split
            · exact ordinary_handleFailedCall (hcurrent call hcall)
            · exact ordinary_refl

theorem ordinary_backgroundTaskExpired : Ordinary s (s.backgroundTaskExpired call) := by
  rw [backgroundTaskExpired]
  split
  · next hcall => exact .failed quiet_endBackgroundTask (hcurrent call hcall) .refl
  · exact .quiet quiet_endBackgroundTask

end

theorem ordinary_setHasLocalVideo {hasLocalVideo : Bool} :
    Ordinary s (s.setHasLocalVideo hasLocalVideo) := by
  cases hcall : s.call with
  | none =>
      rw [setHasLocalVideo, hcall]
      exact ordinary_refl
  | some call =>
      rw [setHasLocalVideo_eq hcall]
      exact .video hasLocalVideo hcall

theorem callCount_handleFailedCall :
    (s.handleFailedCall (some call) error).callCount = s.callCount := by
  rw [handleFailedCall_some]
  split
  · rw [callCount_terminateCall]
    exact callCount_of_rest rest_failed
  · exact callCount_of_rest rest_failed

theorem ordinary_handleRejected (hlt : call < s.callCount) :
    Ordinary s (s.handleRejected call error) := by
  rw [handleRejected]
  split
  · exact ordinary_handleFailedCall hlt
  · split
    · refine .failed .refl hlt (quiet_dispatch ?_ incidental_setUpEnded)
      rwa [callCount_handleFailedCall]
    · exact .quiet (quiet_dispatch hlt incidental_setUpEnded)

theorem ordinary_addRemoteIceCandidate {update : RemoteIceUpdate} :
    Ordinary s (s.addRemoteIceCandidate update) := by
  rw [addRemoteIceCandidate]
  split
  · exact ordinary_refl
  · split
    · exact ordinary_refl
    · split
      · exact ordinary_refl
      · split
        · exact ordinary_refl
        · exact .quiet (quiet_modifyClient fun _ => rfl)

/-! ## Handlers of promises -/

/-- What the handler of a promise comes to. -/
inductive Fulfilled (s : CallService) (call : ℕ) (promise : CallPromise) : CallService → Prop
  | rejected (error : CallError) : Fulfilled s call promise (s.dispatch (.rejected call error))
  | client {callData : SignalCallData} (hpromise : promise = .iceServers)
      (hdata : s.callData = some callData) (hcall : callData.call = call) :
      Fulfilled s call promise
        ((s.setPeerConnectionClient callData).wait call (some .sessionDescription))
  | waits {t : CallService} {next : CallPromise} (hnext : next ≠ .iceServers) (before : Quiet s t) :
      Fulfilled s call promise (t.wait call (some next))
  /-- The call has connected before it is waited for. -/
  | raced {t : CallService} {callData : SignalCallData} (before : Quiet s t)
      (hdata : s.callData = some callData) (hcall : callData.call = call)
      (hconnected : callData.isCallConnected = true) :
      Fulfilled s call promise (t.dispatch (.fulfilled call .callConnected))
  | connected {s' : CallService} (hpromise : promise = .callConnected) (h : Quiet s s') :
      Fulfilled s call promise s'

theorem quiet_readyToSendIceUpdates (hcall : s.call = some call) :
    Quiet s (s.readyToSendIceUpdates call) := by
  obtain ⟨callData, hdata, rfl⟩ := Option.map_eq_some_iff.mp hcall
  rw [readyToSendIceUpdates, hdata]
  dsimp only
  rw [if_neg (not_not_intro rfl)]
  refine { @Quiet.refl s with
    known := fun hknown => { hknown with
      waitingForReadiness := fun other hother =>
        hknown.waitingForReadiness other (List.mem_of_mem_filter hother)
      mainQueue := hknown.append fun block hblock => ?_ }
    setUp := by rw [hdata]; rfl
    mainQueue := ⟨_, rfl, fun block hblock => ?_⟩ }
  · obtain ⟨other, hother, rfl⟩ := List.mem_map.mp hblock
    exact hknown.waitingForReadiness other (List.mem_of_mem_filter hother)
  · obtain ⟨other, -, rfl⟩ := List.mem_map.mp hblock
    exact incidental_localIceCandidate

theorem fulfilled_handleFulfilled (hlt : call < s.callCount) :
    Fulfilled s call promise (s.handleFulfilled call promise) := by
  rw [handleFulfilled.eq_def]
  dsimp only
  split
  · split
    · exact .rejected .obsoleteCall
    · next callData hdata =>
        split
        · exact .rejected .obsoleteCall
        · next hcall =>
            split
            · exact .rejected .assertionError
            · exact .client rfl hdata (not_not.mp hcall)
  · split
    · exact .rejected .obsoleteCall
    · exact .waits nofun .refl
  · split
    · exact .rejected .obsoleteCall
    · exact .waits nofun .refl
  · exact .waits nofun .refl
  · split
    · exact .rejected .obsoleteCall
    · next hcall =>
        rw [not_not] at hcall
        have hquiet := quiet_readyToSendIceUpdates hcall
        rw [raceCallConnected]
        split
        · next hany =>
            obtain ⟨callData', hdata', hconnected⟩ := (Option.any_eq_true _ _).mp hany
            obtain ⟨callData, hdata, -, hsame, -⟩ := hquiet.current hdata'
            refine .raced hquiet hdata ?_ (hsame.symm.trans hconnected)
            exact Option.some.inj ((call_of_some hdata).symm.trans hcall)
        · exact .waits nofun hquiet
  · exact .connected rfl .refl
  · exact .connected rfl (quiet_dispatch hlt incidental_setUpEnded)

/-! ## New calls -/

/-- A call without a record is made. -/
def created (s : CallService) (a : SignalCall) : CallService :=
  { s with
    calls := Function.update s.calls s.callCount a
    callCount := s.callCount + 1 }

theorem calls_created : (s.created a).calls s.callCount = a :=
  Function.update_self _ _ _

theorem calls_created_of_lt (hlt : other < s.callCount) :
    (s.created a).calls other = s.calls other :=
  Function.update_of_ne (Nat.ne_of_lt hlt) _ _

/-- A call is made, and is the current one. -/
def opened (s : CallService) (a : SignalCall) : CallService :=
  { s.created a with
    callData := some ⟨s.callCount, false, false, none, false, none, none⟩ }

/-- A call comes while another is current. -/
def missed (s : CallService) (contact : String) (callId : UInt64) : CallService :=
  (s.created (.incomingCall contact callId)).handleMissedCall s.callCount

theorem call_missed : (s.missed contact callId).call = s.call :=
  call_of_callData callData_handleMissedCall

theorem calls_missed_of_lt (hlt : other < s.callCount) :
    (s.missed contact callId).calls other = s.calls other := by
  rw [missed, calls_handleMissedCall, Function.update_of_ne (Nat.ne_of_lt hlt),
    calls_created_of_lt hlt]

/-! ## Steps -/

/-- The service is notified that the application is in the background, or active. -/
def Event.Notifies : Event → Prop
  | .didEnterBackground | .didBecomeActive => True
  | _ => False

/-- What a step comes to.  The events of the user and of the remote party that end or connect calls
keep their handlers. -/
inductive Effect (s : CallService) : Event → CallService → Prop
  | ordinary {event : Event} {s' : CallService} (hevent : ¬event.Notifies) (h : Ordinary s s') :
      Effect s event s'
  | notified {event : Event} (hevent : event.Notifies) : Effect s event s.updateIsVideoEnabled
  | applicationStateChanged (isInBackground : Bool) :
      Effect s (.applicationStateChanged isInBackground) { s with isInBackground }
  | untrusted (contact : String) (callId : UInt64) :
      Effect s (.receivedOffer contact callId true)
        ((s.created (.incomingCall contact callId)).saveCallRecord s.callCount
          .incomingMissedBecauseOfChangedIdentity).terminateCall
  | rang (contact : String) (callId : UInt64) (hcall : s.call = none) :
      Effect s (.receivedOffer contact callId false)
        ({ s.opened (.incomingCall contact callId) with
          backgroundTasks := s.backgroundTasks ++ [s.callCount] }.wait s.callCount
            (some .iceServers))
  | missed {call : ℕ} (contact : String) (callId : UInt64) (hcall : s.call = some call) :
      Effect s (.receivedOffer contact callId false) (s.missed contact callId)
  /-- Each party has called the other. -/
  | collided {call : ℕ} (callId : UInt64) (hcall : s.call = some call)
      (hstate : (s.calls call).state = .idle ∨ (s.calls call).state = .dialing ∨
        (s.calls call).state = .remoteRinging) :
      Effect s (.receivedOffer (s.calls call).remotePhoneNumber callId false)
        ((s.missed (s.calls call).remotePhoneNumber callId).setState call
          .remoteBusy).terminateCall
  /-- The remote party calls again while its call is current. -/
  | replaced {call : ℕ} (callId : UInt64) (hcall : s.call = some call)
      (hidle : (s.calls call).state ≠ .idle) (hdialing : (s.calls call).state ≠ .dialing)
      (hringing : (s.calls call).state ≠ .remoteRinging) :
      Effect s (.receivedOffer (s.calls call).remotePhoneNumber callId false)
        (s.missed (s.calls call).remotePhoneNumber callId).terminateCall
  | busy {call : ℕ} (hcall : s.call = some call) :
      Effect s (.receivedBusy (s.calls call).remotePhoneNumber (s.calls call).signalingId)
        (s.setState call .remoteBusy).terminateCall
  /-- There is a current call already. -/
  | refused (contact : String) (signalingId : UInt64) (hasLocalVideo : Bool)
      (hdata : s.callData.isSome) :
      Effect s (.outgoingCall contact signalingId hasLocalVideo)
        ((s.created { SignalCall.outgoingCall contact signalingId with
          hasLocalVideo }).setState s.callCount .localFailure)
  | dialed (contact : String) (signalingId : UInt64) (hasLocalVideo : Bool)
      (hcall : s.call = none) :
      Effect s (.outgoingCall contact signalingId hasLocalVideo)
        (((s.opened { SignalCall.outgoingCall contact signalingId with
          hasLocalVideo }).saveCallRecord s.callCount .outgoingIncomplete).wait s.callCount
            (some .iceServers))
  | connected {callData : SignalCallData} {client : ℕ} {message : WebRTCProtoData}
      (hdata : s.callData = some callData) (hclient : callData.peerConnectionClient.isSome)
      (hid : message.connected = some (s.calls callData.call).signalingId) :
      Effect s (.clientEvent client (.receivedDataChannelMessage message))
        (s.handleConnectedCall callData)
  | answered {callData : SignalCallData} {event : Event} (hdata : s.callData = some callData)
      (hclient : callData.peerConnectionClient.isSome)
      (hevent : event = .answerCall callData.call ∨ event = .answerLocalId callData.call) :
      Effect s event
        ((s.saveCallRecord callData.call .incomingIncomplete).handleConnectedCall callData)
  | declined {call : ℕ} {event : Event} (hlt : call < s.callCount)
      (hevent : event = .declineCall call ∨ event = .declineLocalId call ∧ s.call = some call) :
      Effect s event (s.handleDeclineCall call)
  | hungUpHere {call : ℕ} (hcall : s.call = some call) :
      Effect s (.localHangup call) (s.handleLocalHungupCall call)
  | muted (call : ℕ) (isMuted : Bool) :
      Effect s (.setIsMuted call isMuted) (s.setIsMuted call isMuted)
  | held (call : ℕ) (isOnHold : Bool) :
      Effect s (.setIsOnHold call isOnHold) (s.setIsOnHold call isOnHold)
  | terminated : Effect s .createCallUIAdapter s.terminateCall
  | settled {call : ℕ} {promise : CallPromise} {settlement : Settlement}
      (hpromise : s.promises call = some promise) (hsettle : CanSettle promise settlement) :
      Effect s (.promiseSettled call promise settlement) (s.settle call promise settlement)
  | fulfilled {call : ℕ} {promise : CallPromise} {s' : CallService}
      (hhead : s.mainQueue.head? = some (.fulfilled call promise))
      (h : Fulfilled s.popped call promise s') :
      Effect s (.blockRun (.fulfilled call promise)) s'
  | rejected {call : ℕ} {error : CallError}
      (hhead : s.mainQueue.head? = some (.rejected call error))
      (h : Ordinary s.popped (s.popped.handleRejected call error)) :
      Effect s (.blockRun (.rejected call error)) (s.popped.handleRejected call error)
  | blockRun {block : CallBlock} {s' : CallService} (hhead : s.mainQueue.head? = some block)
      (hblock : ∀ call, ¬block.Handles call)
      (h : Ordinary s.popped s') : Effect s (.blockRun block) s'

theorem effect_handleOutgoingCall {signalingId : UInt64} {hasLocalVideo : Bool} :
    Effect s (.outgoingCall contact signalingId hasLocalVideo)
      (s.handleOutgoingCall contact signalingId hasLocalVideo) := by
  rw [handleOutgoingCall]
  split
  · next hdata => exact .refused contact signalingId hasLocalVideo hdata
  · next hdata =>
      refine .dialed contact signalingId hasLocalVideo ?_
      rw [CallService.call, Option.not_isSome_iff_eq_none.mp hdata, Option.map_none]

/-- A call that is not the current one fails when it is hung up. -/
theorem ordinary_handleLocalHungupCall (hlt : call < s.callCount) (hcall : s.call ≠ some call) :
    Ordinary s (s.handleLocalHungupCall call) := by
  rw [handleLocalHungupCall]
  cases hdata : s.callData with
  | none =>
      dsimp only
      rw [terminateCall_of_none hdata]
      exact ordinary_refl
  | some callData =>
      have hne : call ≠ callData.call := fun heq => hcall (by rw [call_of_some hdata, heq])
      dsimp only
      rw [if_pos hne]
      exact ordinary_handleFailedCall hlt

theorem effect_handleAnswerCall (hlt : call < s.callCount) (hnotifies : ¬event.Notifies)
    (hevent : event = .answerCall call ∨ event = .answerLocalId call) :
    Effect s event (s.handleAnswerCall call) := by
  rw [handleAnswerCall]
  cases hdata : s.callData with
  | none => exact .ordinary hnotifies (ordinary_handleFailedCall hlt)
  | some callData =>
      dsimp only
      split
      · exact .ordinary hnotifies ordinary_refl
      · next heq =>
          obtain rfl := not_not.mp heq
          split
          · exact .ordinary hnotifies (ordinary_handleFailedCall hlt)
          · next hclient =>
              exact .answered hdata (Option.isSome_iff_ne_none.mpr hclient) hevent

section

variable (hcurrent : ∀ call, s.call = some call → call < s.callCount)
include hcurrent

theorem effect_handleLocalId {localId : ℕ} {handler : CallService → ℕ → CallService}
    (hevent : ¬event.Notifies)
    (hhandler : s.call = some localId → Effect s event (handler s localId)) :
    Effect s event (s.handleLocalId localId handler) := by
  rw [handleLocalId]
  split
  · exact .ordinary hevent (ordinary_handleFailedCurrentCall hcurrent)
  · next call hcall =>
      split
      · exact .ordinary hevent (ordinary_handleFailedCurrentCall hcurrent)
      · next heq =>
          obtain rfl := not_not.mp heq
          exact hhandler hcall

theorem effect_handleReceivedOffer {isUntrusted : Bool} :
    Effect s (.receivedOffer contact callId isUntrusted)
      (s.handleReceivedOffer contact callId isUntrusted) := by
  rw [handleReceivedOffer]
  cases isUntrusted with
  | true => exact .untrusted contact callId
  | false =>
      cases hcall : s.call with
      | none => exact .rang contact callId hcall
      | some call =>
          have hmissed := hcurrent call hcall
          dsimp only
          rw [if_neg Bool.false_ne_true]
          split
          · next hcontact =>
              subst hcontact
              have hbusy : ((s.missed (s.calls call).remotePhoneNumber callId).handleRemoteBusy
                  ((s.missed (s.calls call).remotePhoneNumber callId).calls call).remotePhoneNumber
                  ((s.missed (s.calls call).remotePhoneNumber callId).calls call).signalingId) =
                  ((s.missed (s.calls call).remotePhoneNumber callId).setState call
                    .remoteBusy).terminateCall := by
                rw [handleRemoteBusy, call_missed, hcall]
                dsimp only
                rw [if_neg (not_not_intro rfl), if_neg (not_not_intro rfl)]
              change Effect s _
                ((s.missed (s.calls call).remotePhoneNumber callId).handleOfferFromCurrentParty
                  call)
              rw [handleOfferFromCurrentParty, hbusy]
              split
              · next hstate =>
                  exact .collided callId hcall (.inl (calls_missed_of_lt hmissed ▸ hstate))
              · next hstate =>
                  exact .collided callId hcall (.inr (.inl (calls_missed_of_lt hmissed ▸ hstate)))
              · next hstate =>
                  exact .collided callId hcall (.inr (.inr (calls_missed_of_lt hmissed ▸ hstate)))
              · next hidle hdialing hringing =>
                  rw [calls_missed_of_lt hmissed] at hidle hdialing hringing
                  exact .replaced callId hcall hidle hdialing hringing
          · exact .missed contact callId hcall

theorem effect_handleDataChannelMessage {message : WebRTCProtoData} :
    Effect s (.clientEvent client (.receivedDataChannelMessage message))
      (s.handleDataChannelMessage message) := by
  have hfailed := @ordinary_handleFailedCurrentCall s .assertionError hcurrent
  rw [handleDataChannelMessage]
  cases hdata : s.callData with
  | none => exact .ordinary id hfailed
  | some callData =>
      have hcall := call_of_some hdata
      dsimp only
      split
      · next hmessage =>
          split
          · exact .ordinary id hfailed
          · next hid =>
              cases hclient : callData.peerConnectionClient with
              | none =>
                  rw [handleConnectedCall, hclient, hcall]
                  exact .ordinary id (ordinary_handleFailedCall (hcurrent _ hcall))
              | some client =>
                  exact .connected hdata (by rw [hclient]; rfl)
                    (by rw [hmessage, not_not.mp hid])
      · split
        · exact .ordinary id hfailed
        · exact .ordinary id (ordinary_handleRemoteHangup hcurrent)
      · exact .ordinary id (.quiet { @Quiet.refl s with
          known := fun hknown => { hknown with }
          setUp := by rw [hdata]; rfl })
      · exact .ordinary id ordinary_refl

theorem effect_handleCurrentClientEvent {clientEvent : ClientEvent} :
    Effect s (.clientEvent client clientEvent) (s.handleCurrentClientEvent clientEvent) := by
  have hvideo : ∀ f : SignalCallData → SignalCallData, (∀ callData, (f callData).setUp =
      callData.setUp) → Ordinary s { s with callData := s.callData.map f } := by
    intro f hf
    refine .quiet { @Quiet.refl s with
      known := fun hknown => { hknown with }
      setUp := ?_ }
    rw [Option.map_map]
    exact congrArg (Option.map · s.callData) (funext hf)
  cases clientEvent with
  | iceConnected => exact .ordinary id (ordinary_handleIceConnected hcurrent)
  | iceDisconnected => exact .ordinary id (ordinary_handleIceDisconnected hcurrent)
  | iceFailed => exact .ordinary id (ordinary_handleFailedCurrentCall hcurrent)
  | addedLocalIceCandidate => exact .ordinary id (ordinary_handleLocalAddedIceCandidate hcurrent)
  | receivedDataChannelMessage message => exact effect_handleDataChannelMessage hcurrent
  | didUpdateLocalVideoCaptureSession localCaptureSession
  | didUpdateRemoteVideoTrack remoteVideoTrack => exact .ordinary id (hvideo _ fun _ => rfl)

theorem effect_runBlock (h : s.Known) (hhead : s.mainQueue.head? = some block) :
    Effect s (.blockRun block) (s.popped.runBlock block) := by
  have hlt : block.call < s.callCount := h.mainQueue _ (List.mem_of_head? hhead)
  cases block with
  | fulfilled call promise => exact .fulfilled hhead (fulfilled_handleFulfilled hlt)
  | rejected call error => exact .rejected hhead (ordinary_handleRejected hlt)
  | setUpEnded call => exact .blockRun hhead (fun _ => id) (.quiet quiet_endBackgroundTask)
  | remoteIceUpdate update =>
      exact .blockRun hhead (fun _ => id) ordinary_addRemoteIceCandidate
  | localIceCandidate call =>
      exact .blockRun hhead (fun _ => id) (ordinary_sendLocalIceCandidate hcurrent)
  | remoteDescriptionFailed call error =>
      exact .blockRun hhead (fun _ => id) (ordinary_handleFailedCall hlt)

/-- **What every step comes to.** -/
theorem effect_of_step (h : s.Known) (hstep : Step s event s') : Effect s event s' := by
  obtain ⟨henabled, rfl⟩ := hstep
  cases event with
  | receivedOffer contact callId isUntrusted => exact effect_handleReceivedOffer hcurrent
  | receivedAnswer contact callId sessionDescription =>
      exact .ordinary id (ordinary_handleReceivedAnswer hcurrent)
  | receivedIceUpdate contact callId candidate =>
      exact .ordinary id (ordinary_handleRemoteAddedIceCandidate hcurrent)
  | receivedHangup contact callId => exact .ordinary id (ordinary_handleRemoteHangup hcurrent)
  | receivedBusy contact callId =>
      change Effect s _ (s.handleRemoteBusy contact callId)
      rw [handleRemoteBusy]
      split
      · exact .ordinary id ordinary_refl
      · next call hcall =>
          split
          · exact .ordinary id ordinary_refl
          · next hid =>
              split
              · exact .ordinary id ordinary_refl
              · next hcontact =>
                  obtain rfl := not_not.mp hid
                  obtain rfl := not_not.mp hcontact
                  exact .busy hcall
  | clientEvent client clientEvent =>
      rcases @handle_clientEvent_eq_or_eq s client clientEvent with hsame | hheard
      · rw [hsame]
        exact .ordinary id ordinary_refl
      · rw [hheard]
        exact effect_handleCurrentClientEvent hcurrent
  | outgoingCall contact signalingId hasLocalVideo => exact effect_handleOutgoingCall
  | answerCall call => exact effect_handleAnswerCall henabled id (.inl rfl)
  | answerLocalId localId =>
      exact effect_handleLocalId hcurrent id fun hcall =>
        effect_handleAnswerCall (hcurrent _ hcall) id (.inr rfl)
  | declineCall call => exact .declined henabled (.inl rfl)
  | declineLocalId localId =>
      exact effect_handleLocalId hcurrent id fun hcall =>
        .declined (hcurrent _ hcall) (.inr ⟨rfl, hcall⟩)
  | localHangup call =>
      by_cases hcall : s.call = some call
      · exact .hungUpHere hcall
      · exact .ordinary id (ordinary_handleLocalHungupCall henabled hcall)
  | setIsMuted call isMuted => exact .muted call isMuted
  | setIsOnHold call isOnHold => exact .held call isOnHold
  | setHasLocalVideo hasLocalVideo => exact .ordinary id (ordinary_setHasLocalVideo)
  | applicationStateChanged isInBackground => exact .applicationStateChanged isInBackground
  | didEnterBackground | didBecomeActive => exact .notified trivial
  | createCallUIAdapter => exact .terminated
  | providerDidReset => exact .ordinary id (ordinary_handleFailedCurrentCall hcurrent)
  | callTimerFired connectedRecently hasCallView =>
      exact .ordinary id (ordinary_ensureCallScreenPresented hcurrent)
  | promiseSettled call promise settlement => exact .settled henabled.1 henabled.2
  | remoteDescriptionSet call error =>
      have hset : Quiet s { s with remoteDescriptions := s.remoteDescriptions.erase call } :=
        { Quiet.refl with
          known := fun hknown => { hknown with
            remoteDescriptions := fun other hother =>
              hknown.remoteDescriptions other (List.mem_of_mem_erase hother) } }
      refine .ordinary id (.quiet ?_)
      cases error with
      | none => exact hset
      | some error =>
          exact { hset with
            known := fun hknown =>
              (hset.known hknown).dispatch (h.remoteDescriptions call henabled)
            mainQueue := ⟨[_], rfl, List.forall_mem_singleton.mpr ⟨nofun, nofun⟩⟩ }
  | backgroundTaskExpired call => exact .ordinary id (ordinary_backgroundTaskExpired hcurrent)
  | blockRun block => exact effect_runBlock hcurrent h henabled

end

end CallService

end ObjcSwiftLearning.Signal
