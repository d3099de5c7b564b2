import Mathlib.Logic.Function.Basic
import ObjcSwiftLearning.Library.LabelledRun

/-!
# The call service

`CallService` is told of everything that happens to calls: signalling messages, events of peer
connection clients, what the user does, and promises that settle.  All of it happens on the main
thread; the handlers of promises are blocks that wait in the queue of that thread, in order, and
between two of them anything else may be handled.

* `CallService` — the calls there have been, the data of the current one, the clients, the saved
  records, and the promises under way.
* `CallService.handleFailedCall`, `CallService.terminateCall` — how calls end.
* `CallService.runBlock` — the handlers of the promises.
* `CallService.Step` — one thing that happens.
-/

namespace ObjcSwiftLearning.Signal

/-! ## Calls -/

inductive CallState where
  | idle
  | dialing
  | answering
  | remoteRinging
  | localRinging
  | connected
  | reconnecting
  | localFailure
  | localHangup
  | remoteHangup
  | remoteBusy
deriving DecidableEq, Inhabited

def CallState.isTerminated : CallState → Bool
  | .localFailure | .localHangup | .remoteHangup | .remoteBusy => true
  | .idle | .dialing | .answering | .remoteRinging | .localRinging | .connected
  | .reconnecting => false

inductive CallDirection where
  | outgoing
  | incoming
deriving DecidableEq, Inhabited

inductive CallError where
  | providerReset
  | assertionError
  | disconnected
  | externalError
  | timeout
  | obsoleteCall
  | fatalError
deriving DecidableEq

inductive RPRecentCallType where
  | incoming
  | outgoing
  | incomingMissed
  | outgoingIncomplete
  | incomingIncomplete
  | incomingMissedBecauseOfChangedIdentity
  | incomingDeclined
  | outgoingMissed
deriving DecidableEq

/-- A saved `TSCall`. -/
structure TSCall where
  callNumber : String
  callType : RPRecentCallType
  call : ℕ
deriving DecidableEq

/-- `SignalCall`; its number is its `localId`. -/
structure SignalCall where
  direction : CallDirection
  signalingId : UInt64
  remotePhoneNumber : String
  state : CallState
  callRecord : Option ℕ
  hasLocalVideo : Bool
  isMuted : Bool
  isOnHold : Bool
  /-- Whether `connectedDate` is set. -/
  hasConnected : Bool
  error : Option CallError
deriving DecidableEq, Inhabited

namespace SignalCall

/-- `init`. -/
def make (direction : CallDirection) (signalingId : UInt64) (state : CallState)
    (remotePhoneNumber : String) : SignalCall where
  direction
  signalingId
  remotePhoneNumber
  state
  callRecord := none
  hasLocalVideo := false
  isMuted := false
  isOnHold := false
  hasConnected := false
  error := none

/-- The call in another state; `connectedDate` is set when it connects first. -/
def withState (call : SignalCall) (state : CallState) : SignalCall :=
  { call with
    state
    hasConnected := call.hasConnected || state = .connected }

def outgoingCall (remotePhoneNumber : String) (signalingId : UInt64) : SignalCall :=
  make .outgoing signalingId .dialing remotePhoneNumber

def incomingCall (remotePhoneNumber : String) (signalingId : UInt64) : SignalCall :=
  make .incoming signalingId .answering remotePhoneNumber

end SignalCall

/-! ## Clients and promises -/

structure RTCIceCandidate where
  sdp : String
  sdpMLineIndex : Int32
  sdpMid : String
deriving DecidableEq

structure PeerConnectionClient where
  isTerminated : Bool
  audioEnabled : Bool
  videoEnabled : Bool
  remoteSessionDescriptions : List String
  remoteIceCandidates : List RTCIceCandidate
deriving DecidableEq

/-- A new client; its tracks are disabled "by default until call is connected". -/
def PeerConnectionClient.make : PeerConnectionClient where
  isTerminated := false
  audioEnabled := false
  videoEnabled := false
  remoteSessionDescriptions := []
  remoteIceCandidates := []

instance : Inhabited PeerConnectionClient := ⟨.make⟩

/-- `WebRTCProtoData`: the ids of a Connected and of a Hangup, and whether video is streaming. -/
structure WebRTCProtoData where
  connected : Option UInt64
  hangup : Option UInt64
  videoStreamingStatus : Option Bool
deriving DecidableEq

/-- `SignalCallData`.  The promise for the client is fulfilled when there is one. -/
structure SignalCallData where
  call : ℕ
  isCallConnected : Bool
  isReadyToSendIceUpdates : Bool
  peerConnectionClient : Option ℕ
  isRemoteVideoEnabled : Bool
  localCaptureSession : Option ℕ
  remoteVideoTrack : Option ℕ
deriving DecidableEq

/-- What the promise of a call being set up waits for. -/
inductive CallPromise where
  | iceServers
  /-- `createOffer` or `negotiateSessionDescription`. -/
  | sessionDescription
  | localSessionDescription
  /-- The offer or the answer is sent. -/
  | callMessage
  /-- `callConnectedPromise`, or the timeout. -/
  | callConnected
deriving DecidableEq

structure RemoteIceUpdate where
  call : ℕ
  contact : String
  callId : UInt64
  candidate : RTCIceCandidate
deriving DecidableEq

/-- A block in the queue of the main thread. -/
inductive CallBlock where
  | fulfilled (call : ℕ) (promise : CallPromise)
  | rejected (call : ℕ) (error : CallError)
  | setUpEnded (call : ℕ)
  | remoteIceUpdate (update : RemoteIceUpdate)
  | localIceCandidate (call : ℕ)
  | remoteDescriptionFailed (call : ℕ) (error : CallError)
deriving DecidableEq

/-! ## The service -/

structure CallService where
  calls : ℕ → SignalCall
  callCount : ℕ
  clients : ℕ → PeerConnectionClient
  clientCount : ℕ
  callData : Option SignalCallData
  callRecords : List TSCall
  /-- Whether `applicationState` of the application is `.background`. -/
  isInBackground : Bool
  promises : ℕ → Option CallPromise
  remoteDescriptions : List ℕ
  /-- What waits for `peerConnectionClientPromise`. -/
  waitingForClient : List RemoteIceUpdate
  /-- What waits for `readyToSendIceUpdatesPromise`. -/
  waitingForReadiness : List ℕ
  backgroundTasks : List ℕ
  mainQueue : List CallBlock

namespace CallService

variable (s : CallService)

/-- At launch. -/
def initial : CallService where
  calls := fun _ => default
  callCount := 0
  clients := fun _ => default
  clientCount := 0
  callData := none
  callRecords := []
  isInBackground := false
  promises := fun _ => none
  remoteDescriptions := []
  waitingForClient := []
  waitingForReadiness := []
  backgroundTasks := []
  mainQueue := []

def call : Option ℕ :=
  s.callData.map (·.call)

def peerConnectionClient : Option ℕ :=
  s.callData.bind (·.peerConnectionClient)

def modifyCall (call : ℕ) (f : SignalCall → SignalCall) : CallService :=
  { s with calls := Function.update s.calls call (f (s.calls call)) }

def modifyClient (client : ℕ) (f : PeerConnectionClient → PeerConnectionClient) : CallService :=
  { s with clients := Function.update s.clients client (f (s.clients client)) }

def dispatch (block : CallBlock) : CallService :=
  { s with mainQueue := s.mainQueue ++ [block] }

def wait (call : ℕ) (promise : Option CallPromise) : CallService :=
  { s with promises := Function.update s.promises call promise }

/-! ### Video -/

def shouldHaveLocalVideoTrack : Bool :=
  match s.callData with
  | none => false
  | some callData =>
      !s.isInBackground && (s.calls callData.call).state = .connected &&
        (s.calls callData.call).hasLocalVideo

def setLocalVideoEnabled (client : ℕ) (enabled : Bool) : CallService :=
  s.modifyClient client fun client => { client with videoEnabled := enabled }

def updateIsVideoEnabled : CallService :=
  match s.peerConnectionClient with
  | none => s
  | some client => s.setLocalVideoEnabled client s.shouldHaveLocalVideoTrack

/-! ### Records and states -/

def callType (record : ℕ) : Option RPRecentCallType :=
  (s.callRecords[record]?).map TSCall.callType

def updateCallType (record : ℕ) (callType : RPRecentCallType) : CallService :=
  { s with callRecords := s.callRecords.modify record fun record => { record with callType } }

def updateCallRecordType (call : ℕ) : CallService :=
  match (s.calls call).callRecord with
  | none => s
  | some record =>
      if (s.calls call).state = .connected then
        match s.callType record with
        | some .outgoingIncomplete => s.updateCallType record .outgoing
        | some .incomingIncomplete => s.updateCallType record .incoming
        | _ => s
      else s

def saveCallRecord (call : ℕ) (callType : RPRecentCallType) : CallService :=
  let record : TSCall := { callNumber := (s.calls call).remotePhoneNumber, callType, call }
  let saved := { s with callRecords := s.callRecords ++ [record] }
  (saved.modifyCall call fun signalCall =>
    { signalCall with callRecord := some s.callRecords.length }).updateCallRecordType call

/-- The setter of `state`.  The service observes the current call. -/
def setState (call : ℕ) (state : CallState) : CallService :=
  let changed := (s.modifyCall call (·.withState state)).updateCallRecordType call
  if s.call = some call then changed.updateIsVideoEnabled else changed

/-! ### Ends of calls -/

/-- `terminateCall`.  What has not been fulfilled is rejected. -/
def terminateCall : CallService :=
  match s.callData with
  | none => s
  | some callData =>
      let ended :=
        { s with
          callData := none
          waitingForClient := s.waitingForClient.filter (·.call ≠ callData.call)
          waitingForReadiness := s.waitingForReadiness.filter (· ≠ callData.call) }
      let rejected :=
        if s.promises callData.call = some .callConnected then
          (ended.wait callData.call none).dispatch (.rejected callData.call .obsoleteCall)
        else ended
      match callData.peerConnectionClient with
      | none => rejected
      | some client =>
          rejected.modifyClient client fun client => { client with isTerminated := true }

def handleMissedCall (call : ℕ) : CallService :=
  match (s.calls call).callRecord with
  | none => s.saveCallRecord call .incomingMissed
  | some record =>
      if s.callType record = some .incoming then
        s.updateCallType record .incomingMissed
      else s

/-- A call that failed "before any call record could be created" gets one. -/
def handleMissedIfFailed (call : ℕ) : CallService :=
  match (s.calls call).state with
  | .answering | .localRinging => s.handleMissedCall call
  | _ => s

def handleFailedCall (failedCall : Option ℕ) (error : CallError) : CallService :=
  match failedCall with
  | none => s.terminateCall
  | some call =>
      let failed := ((s.handleMissedIfFailed call).modifyCall call fun signalCall =>
        { signalCall with error := some error }).setState call .localFailure
      if s.call = some call then failed.terminateCall else failed

def handleFailedCurrentCall (error : CallError) : CallService :=
  s.handleFailedCall s.call error

/-! ### Setting up calls -/

def handleOutgoingCall (contact : String) (signalingId : UInt64) (hasLocalVideo : Bool) :
    CallService :=
  let call := s.callCount
  let created :=
    { s with
      calls := Function.update s.calls call
        { SignalCall.outgoingCall contact signalingId with hasLocalVideo }
      callCount := s.callCount + 1 }
  if s.callData.isSome then created.setState call .localFailure
  else
    ({ created with
      callData := some ⟨call, false, false, none, false, none, none⟩
    }.saveCallRecord call .outgoingIncomplete).wait call (some .iceServers)

def handleRemoteBusy (contact : String) (callId : UInt64) : CallService :=
  match s.call with
  | none => s
  | some call =>
      if (s.calls call).signalingId ≠ callId then s
      else if contact ≠ (s.calls call).remotePhoneNumber then s
      else (s.setState call .remoteBusy).terminateCall

def handleOfferFromCurrentParty (call : ℕ) : CallService :=
  match (s.calls call).state with
  | .idle | .dialing | .remoteRinging =>
      s.handleRemoteBusy (s.calls call).remotePhoneNumber (s.calls call).signalingId
  | _ => s.terminateCall

def handleReceivedOffer (contact : String) (callId : UInt64) (isUntrusted : Bool) : CallService :=
  let newCall := s.callCount
  let created :=
    { s with
      calls := Function.update s.calls newCall (.incomingCall contact callId)
      callCount := s.callCount + 1 }
  if isUntrusted then
    -- Whatever call is current, it is terminated.
    (created.saveCallRecord newCall .incomingMissedBecauseOfChangedIdentity).terminateCall
  else
    match s.call with
    | some existingCall =>
        -- `handleLocalBusyCall`.
        let busy := created.handleMissedCall newCall
        if (s.calls existingCall).remotePhoneNumber = contact then
          busy.handleOfferFromCurrentParty existingCall
        else busy
    | none =>
        { created with
          callData := some ⟨newCall, false, false, none, false, none, none⟩
          backgroundTasks := s.backgroundTasks ++ [newCall] }.wait newCall (some .iceServers)

/-- `handleReceivedAnswer`.  Nobody asks who has sent it. -/
def handleReceivedAnswer (callId : UInt64) (sessionDescription : String) : CallService :=
  match s.call with
  | none => s
  | some call =>
      if (s.calls call).signalingId ≠ callId then s
      else
        match s.peerConnectionClient with
        | none => s.handleFailedCall (some call) .assertionError
        | some client =>
            { s.modifyClient client fun client =>
                { client with
                  remoteSessionDescriptions :=
                    client.remoteSessionDescriptions ++ [sessionDescription] } with
              remoteDescriptions := s.remoteDescriptions ++ [call] }

def readyToSendIceUpdates (call : ℕ) : CallService :=
  match s.callData with
  | none => s.handleFailedCall (some call) .obsoleteCall
  | some callData =>
      if callData.call ≠ call then s
      else
        { s with
          callData := some { callData with isReadyToSendIceUpdates := true }
          waitingForReadiness := s.waitingForReadiness.filter (· ≠ call)
          mainQueue := s.mainQueue ++
            (s.waitingForReadiness.filter (· = call)).map .localIceCandidate }

def setPeerConnectionClient (callData : SignalCallData) : CallService :=
  { s with
    callData := some { callData with peerConnectionClient := some s.clientCount }
    clients := Function.update s.clients s.clientCount .make
    clientCount := s.clientCount + 1
    waitingForClient := s.waitingForClient.filter (·.call ≠ callData.call)
    mainQueue := s.mainQueue ++
      (s.waitingForClient.filter (·.call = callData.call)).map .remoteIceUpdate }

/-- `race` of the timeout and `callConnectedPromise`. -/
def raceCallConnected (call : ℕ) : CallService :=
  if s.callData.any (·.isCallConnected) then s.dispatch (.fulfilled call .callConnected)
  else s.wait call (some .callConnected)

/-- The handlers of the promise of a call that is set up, each when what it waits for is there. -/
def handleFulfilled (call : ℕ) (promise : CallPromise) : CallService :=
  let obsolete := s.dispatch (.rejected call .obsoleteCall)
  match (s.calls call).direction, promise with
  | direction, .iceServers =>
      match s.callData with
      | none => obsolete
      | some callData =>
          if callData.call ≠ call then obsolete
          else if direction = .outgoing ∧ callData.peerConnectionClient.isSome then
            s.dispatch (.rejected call .assertionError)
          else (s.setPeerConnectionClient callData).wait call (some .sessionDescription)
  | .outgoing, .sessionDescription =>
      if s.call ≠ some call ∨ s.peerConnectionClient = none then obsolete
      else s.wait call (some .localSessionDescription)
  | .incoming, .sessionDescription =>
      if s.call ≠ some call then obsolete else s.wait call (some .callMessage)
  | _, .localSessionDescription => s.wait call (some .callMessage)
  | _, .callMessage =>
      if s.call ≠ some call then obsolete
      else (s.readyToSendIceUpdates call).raceCallConnected call
  | .outgoing, .callConnected => s
  | .incoming, .callConnected => s.dispatch (.setUpEnded call)

/-- `catch` of an outgoing call, `recover` of an incoming one. -/
def handleRejected (call : ℕ) (error : CallError) : CallService :=
  match (s.calls call).direction with
  | .outgoing => s.handleFailedCall (some call) error
  | .incoming =>
      (if s.call = some call then s.handleFailedCall (some call) error else s).dispatch
        (.setUpEnded call)

/-! ### ICE -/

def handleRemoteAddedIceCandidate (contact : String) (callId : UInt64)
    (candidate : RTCIceCandidate) : CallService :=
  match s.callData with
  | none => s
  | some callData =>
      let update : RemoteIceUpdate := ⟨callData.call, contact, callId, candidate⟩
      if callData.peerConnectionClient.isSome then s.dispatch (.remoteIceUpdate update)
      else { s with waitingForClient := s.waitingForClient ++ [update] }

/-- Its handler once there is a client. -/
def addRemoteIceCandidate (update : RemoteIceUpdate) : CallService :=
  match s.call with
  | none => s
  | some call =>
      if (s.calls call).signalingId ≠ update.callId then s
      else if update.contact ≠ (s.calls call).remotePhoneNumber then s
      else
        match s.peerConnectionClient with
        | none => s
        | some client =>
            s.modifyClient client fun client =>
              { client with
                remoteIceCandidates := client.remoteIceCandidates ++ [update.candidate] }

def handleLocalAddedIceCandidate : CallService :=
  match s.callData with
  | none => s.handleFailedCurrentCall .assertionError
  | some callData =>
      if callData.isReadyToSendIceUpdates then s.dispatch (.localIceCandidate callData.call)
      else { s with waitingForReadiness := s.waitingForReadiness ++ [callData.call] }

/-- Its handler once ICE updates may be sent, up to where the candidate is sent. -/
def sendLocalIceCandidate (call : ℕ) : CallService :=
  if s.call ≠ some call then s.handleFailedCurrentCall .obsoleteCall
  else if (s.calls call).state = .idle then s.handleFailedCurrentCall .assertionError
  else s

def handleIceConnected : CallService :=
  match s.call with
  | none => s.handleFailedCurrentCall .assertionError
  | some call =>
      match (s.calls call).state with
      | .dialing => s.setState call .remoteRinging
      | .answering => s.setState call .localRinging
      | .reconnecting => s.setState call .connected
      | _ => s

def handleIceDisconnected : CallService :=
  match s.call with
  | none => s.handleFailedCurrentCall .assertionError
  | some call =>
      match (s.calls call).state with
      | .connected => s.setState call .reconnecting
      | _ => s

/-! ### Audio, and calls that connect -/

def ensureAudioState (call client : ℕ) : CallService :=
  let enabled := (s.calls call).state = .connected && !(s.calls call).isMuted &&
    !(s.calls call).isOnHold
  s.modifyClient client fun client => { client with audioEnabled := enabled }

def fulfillCallConnected (callData : SignalCallData) : CallService :=
  let connected := { s with callData := some { callData with isCallConnected := true } }
  if s.promises callData.call = some .callConnected then
    (connected.wait callData.call none).dispatch (.fulfilled callData.call .callConnected)
  else connected

def handleConnectedCall (callData : SignalCallData) : CallService :=
  match callData.peerConnectionClient with
  | none => s.handleFailedCall s.call .assertionError
  | some client =>
      let connected := (((s.fulfillCallConnected callData).setState callData.call
        .connected).ensureAudioState callData.call client)
      connected.setLocalVideoEnabled client connected.shouldHaveLocalVideoTrack

/-! ### The remote party and the user -/

/-- A call that the remote party hangs up before it has connected is missed. -/
def handleMissedIfHungUp (call : ℕ) : CallService :=
  match (s.calls call).state with
  | .connected | .reconnecting | .localHangup | .remoteHangup => s
  | _ => s.handleMissedCall call

def handleRemoteHangup (contact : String) (callId : UInt64) : CallService :=
  match s.call with
  | none => s.handleFailedCurrentCall .obsoleteCall
  | some call =>
      if (s.calls call).signalingId ≠ callId then s
      else if contact ≠ (s.calls call).remotePhoneNumber then s
      else ((s.handleMissedIfHungUp call).setState call .remoteHangup).terminateCall

def handleAnswerCall (call : ℕ) : CallService :=
  match s.callData with
  | none => s.handleFailedCall (some call) .assertionError
  | some callData =>
      if call ≠ callData.call then s
      else if callData.peerConnectionClient = none then
        s.handleFailedCall (some call) .assertionError
      else (s.saveCallRecord call .incomingIncomplete).handleConnectedCall callData

/-- The record of an outgoing call that the user hangs up before it has connected. -/
def updateHungUpCallRecord (call : ℕ) : CallService :=
  match (s.calls call).callRecord with
  | none => s
  | some record =>
      if s.callType record = some .outgoingIncomplete then s.updateCallType record .outgoingMissed
      else s

def handleLocalHungupCall (call : ℕ) : CallService :=
  match s.callData with
  | none => s.terminateCall
  | some callData =>
      if call ≠ callData.call then s.handleFailedCall (some call) .assertionError
      else
        let hungUp := (s.setState call .localHangup).updateHungUpCallRecord call
        match callData.peerConnectionClient with
        | none => hungUp.terminateCall
        | some client => (hungUp.ensureAudioState call client).terminateCall

def handleDeclineCall (call : ℕ) : CallService :=
  let declined :=
    match (s.calls call).callRecord with
    | none => s.saveCallRecord call .incomingDeclined
    | some record => s.updateCallType record .incomingDeclined
  declined.handleLocalHungupCall call

def handleLocalId (localId : ℕ) (handler : CallService → ℕ → CallService) : CallService :=
  match s.call with
  | none => s.handleFailedCurrentCall .assertionError
  | some call =>
      if call ≠ localId then s.handleFailedCurrentCall .assertionError else handler s call

/-- `setIsMuted` and `setIsOnHold`. -/
def setAudioOption (call : ℕ) (f : SignalCall → SignalCall) : CallService :=
  if s.call ≠ some call then s
  else
    match s.peerConnectionClient with
    | none => s.modifyCall call f
    | some client => (s.modifyCall call f).ensureAudioState call client

def setIsMuted (call : ℕ) (isMuted : Bool) : CallService :=
  s.setAudioOption call fun signalCall => { signalCall with isMuted }

def setIsOnHold (call : ℕ) (isOnHold : Bool) : CallService :=
  s.setAudioOption call fun signalCall => { signalCall with isOnHold }

/-- `setHasLocalVideoWithCameraPermissions`. -/
def setHasLocalVideo (hasLocalVideo : Bool) : CallService :=
  match s.call with
  | none => s
  | some call =>
      let changed :=
        (s.modifyCall call fun signalCall => { signalCall with hasLocalVideo }).updateIsVideoEnabled
      match s.peerConnectionClient with
      | none => changed
      | some client =>
          if (changed.calls call).state = .connected then
            changed.setLocalVideoEnabled client changed.shouldHaveLocalVideoTrack
          else changed

def handleDataChannelMessage (message : WebRTCProtoData) : CallService :=
  match s.callData with
  | none => s.handleFailedCurrentCall .assertionError
  | some callData =>
      -- Of what a message says only the first counts.
      match message.connected, message.hangup, message.videoStreamingStatus with
      | some connected, _, _ =>
          if connected ≠ (s.calls callData.call).signalingId then
            s.handleFailedCurrentCall .assertionError
          else s.handleConnectedCall callData
      | none, some hangup, _ =>
          if hangup ≠ (s.calls callData.call).signalingId then
            s.handleFailedCurrentCall .assertionError
          else s.handleRemoteHangup (s.calls callData.call).remotePhoneNumber hangup
      | none, none, some enabled =>
          { s with callData := some { callData with isRemoteVideoEnabled := enabled } }
      | none, none, none => s

/-- `ensureCallScreenPresented`, of the timer of the current call. -/
def ensureCallScreenPresented (connectedRecently hasCallView : Bool) : CallService :=
  match s.call with
  | none => s
  | some call =>
      if !(s.calls call).hasConnected then s
      else if connectedRecently then s
      else if (s.calls call).state.isTerminated then s
      else if !hasCallView then s.handleFailedCall (some call) .assertionError
      else s

def backgroundTaskExpired (call : ℕ) : CallService :=
  let expired := { s with backgroundTasks := s.backgroundTasks.filter (· ≠ call) }
  if s.call = some call then expired.handleFailedCall (some call) .timeout else expired

def runBlock : CallBlock → CallService
  | .fulfilled call promise => s.handleFulfilled call promise
  | .rejected call error => s.handleRejected call error
  | .setUpEnded call => { s with backgroundTasks := s.backgroundTasks.filter (· ≠ call) }
  | .remoteIceUpdate update => s.addRemoteIceCandidate update
  | .localIceCandidate call => s.sendLocalIceCandidate call
  | .remoteDescriptionFailed call error => s.handleFailedCall (some call) error

/-! ## What happens -/

/-- What a client tells its delegate. -/
inductive ClientEvent where
  | iceConnected
  | iceDisconnected
  | iceFailed
  | addedLocalIceCandidate
  | receivedDataChannelMessage (message : WebRTCProtoData)
  | didUpdateLocalVideoCaptureSession (captureSession : Option ℕ)
  | didUpdateRemoteVideoTrack (videoTrack : Option ℕ)
deriving DecidableEq

/-- What the methods of `PeerConnectionClientDelegate` do for the client they take for the current
one. -/
def handleCurrentClientEvent : ClientEvent → CallService
  | .iceConnected => s.handleIceConnected
  | .iceDisconnected => s.handleIceDisconnected
  | .iceFailed => s.handleFailedCurrentCall .disconnected
  | .addedLocalIceCandidate => s.handleLocalAddedIceCandidate
  | .receivedDataChannelMessage message => s.handleDataChannelMessage message
  | .didUpdateLocalVideoCaptureSession localCaptureSession =>
      { s with callData := s.callData.map fun callData => { callData with localCaptureSession } }
  | .didUpdateRemoteVideoTrack remoteVideoTrack =>
      { s with callData := s.callData.map fun callData => { callData with remoteVideoTrack } }

/-- The methods of `PeerConnectionClientDelegate`. -/
def handleClientEvent (client : ℕ) (event : ClientEvent) : CallService :=
  -- `peerConnectionClientIceDisconnected` names its parameter `peerconnectionClient`, and so
  -- compares the current client with itself.
  let compared := if event = .iceDisconnected then s.peerConnectionClient else some client
  if compared ≠ s.peerConnectionClient then s else s.handleCurrentClientEvent event

/-- How the promise that a call waits for settles.  A handler is not called for a cancellation. -/
inductive Settlement where
  | fulfilled
  | rejected (error : CallError)
  | cancelled
deriving DecidableEq

/-- Whether what is waited for can settle so: `getIceServers` recovers from every error, and the
race is won by the timeout when the call does not connect. -/
def CanSettle : CallPromise → Settlement → Prop
  | .iceServers, settlement => settlement = .fulfilled
  | .callConnected, settlement => settlement = .rejected .timeout
  | _, _ => True

def settle (call : ℕ) (promise : CallPromise) : Settlement → CallService
  | .fulfilled => (s.wait call none).dispatch (.fulfilled call promise)
  | .rejected error => (s.wait call none).dispatch (.rejected call error)
  | .cancelled =>
      match (s.calls call).direction with
      | .outgoing => s.wait call none
      | .incoming => (s.wait call none).dispatch (.setUpEnded call)

inductive Event where
  | receivedOffer (contact : String) (callId : UInt64) (isUntrusted : Bool)
  | receivedAnswer (contact : String) (callId : UInt64) (sessionDescription : String)
  | receivedIceUpdate (contact : String) (callId : UInt64) (candidate : RTCIceCandidate)
  | receivedHangup (contact : String) (callId : UInt64)
  | receivedBusy (contact : String) (callId : UInt64)
  | clientEvent (client : ℕ) (event : ClientEvent)
  | outgoingCall (contact : String) (signalingId : UInt64) (hasLocalVideo : Bool)
  | answerCall (call : ℕ)
  | answerLocalId (localId : ℕ)
  | declineCall (call : ℕ)
  | declineLocalId (localId : ℕ)
  | localHangup (call : ℕ)
  | setIsMuted (call : ℕ) (isMuted : Bool)
  | setIsOnHold (call : ℕ) (isOnHold : Bool)
  | setHasLocalVideo (hasLocalVideo : Bool)
  /-- `applicationState` becomes `.background`, or another; the notifications come later. -/
  | applicationStateChanged (isInBackground : Bool)
  | didEnterBackground
  | didBecomeActive
  | createCallUIAdapter
  | providerDidReset
  | callTimerFired (connectedRecently hasCallView : Bool)
  | promiseSettled (call : ℕ) (promise : CallPromise) (settlement : Settlement)
  | remoteDescriptionSet (call : ℕ) (error : Option CallError)
  | backgroundTaskExpired (call : ℕ)
  | blockRun (block : CallBlock)
deriving DecidableEq

/-- What can happen. -/
def Enabled : Event → Prop
  | .clientEvent client _ => client < s.clientCount
  | .answerCall call | .declineCall call | .localHangup call | .setIsMuted call _
  | .setIsOnHold call _ => call < s.callCount
  | .promiseSettled call promise settlement =>
      s.promises call = some promise ∧ CanSettle promise settlement
  | .remoteDescriptionSet call _ => call ∈ s.remoteDescriptions
  | .backgroundTaskExpired call => call ∈ s.backgroundTasks
  | .blockRun block => s.mainQueue.head? = some block
  | _ => True

def handle : Event → CallService
  | .receivedOffer contact callId isUntrusted => s.handleReceivedOffer contact callId isUntrusted
  | .receivedAnswer _ callId sessionDescription => s.handleReceivedAnswer callId sessionDescription
  | .receivedIceUpdate contact callId candidate =>
      s.handleRemoteAddedIceCandidate contact callId candidate
  | .receivedHangup contact callId => s.handleRemoteHangup contact callId
  | .receivedBusy contact callId => s.handleRemoteBusy contact callId
  | .clientEvent client event =>
      -- `terminate` clears the delegate of a client.
      if (s.clients client).isTerminated then s else s.handleClientEvent client event
  | .outgoingCall contact signalingId hasLocalVideo =>
      s.handleOutgoingCall contact signalingId hasLocalVideo
  | .answerCall call => s.handleAnswerCall call
  | .answerLocalId localId => s.handleLocalId localId handleAnswerCall
  | .declineCall call => s.handleDeclineCall call
  | .declineLocalId localId => s.handleLocalId localId handleDeclineCall
  | .localHangup call => s.handleLocalHungupCall call
  | .setIsMuted call isMuted => s.setIsMuted call isMuted
  | .setIsOnHold call isOnHold => s.setIsOnHold call isOnHold
  | .setHasLocalVideo hasLocalVideo => s.setHasLocalVideo hasLocalVideo
  | .applicationStateChanged isInBackground => { s with isInBackground }
  | .didEnterBackground | .didBecomeActive => s.updateIsVideoEnabled
  | .createCallUIAdapter => s.terminateCall
  | .providerDidReset => s.handleFailedCurrentCall .providerReset
  | .callTimerFired connectedRecently hasCallView =>
      s.ensureCallScreenPresented connectedRecently hasCallView
  | .promiseSettled call promise settlement => s.settle call promise settlement
  | .remoteDescriptionSet call error =>
      let isSet := { s with remoteDescriptions := s.remoteDescriptions.erase call }
      match error with
      | none => isSet
      | some error => isSet.dispatch (.remoteDescriptionFailed call error)
  | .backgroundTaskExpired call => s.backgroundTaskExpired call
  | .blockRun block => { s with mainQueue := s.mainQueue.tail }.runBlock block

/-- One thing happens. -/
def Step (s : CallService) (event : Event) (s' : CallService) : Prop :=
  s.Enabled event ∧ s' = s.handle event

/-! ## Runs of given events -/

instance decidableCanSettle (promise : CallPromise) (settlement : Settlement) :
    Decidable (CanSettle promise settlement) :=
  match promise with
  | .iceServers => inferInstanceAs (Decidable (settlement = .fulfilled))
  | .callConnected => inferInstanceAs (Decidable (settlement = .rejected .timeout))
  | .sessionDescription | .localSessionDescription | .callMessage => .isTrue trivial

instance decidableEnabled (event : Event) : Decidable (s.Enabled event) :=
  match event with
  | .clientEvent client _ => inferInstanceAs (Decidable (client < s.clientCount))
  | .answerCall call | .declineCall call | .localHangup call | .setIsMuted call _
  | .setIsOnHold call _ => inferInstanceAs (Decidable (call < s.callCount))
  | .promiseSettled call promise settlement =>
      inferInstanceAs (Decidable (s.promises call = some promise ∧ CanSettle promise settlement))
  | .remoteDescriptionSet call _ => inferInstanceAs (Decidable (call ∈ s.remoteDescriptions))
  | .backgroundTaskExpired call => inferInstanceAs (Decidable (call ∈ s.backgroundTasks))
  | .blockRun block => inferInstanceAs (Decidable (s.mainQueue.head? = some block))
  | .receivedOffer .. | .receivedAnswer .. | .receivedIceUpdate .. | .receivedHangup ..
  | .receivedBusy .. | .outgoingCall .. | .answerLocalId .. | .declineLocalId ..
  | .setHasLocalVideo .. | .applicationStateChanged .. | .didEnterBackground | .didBecomeActive
  | .createCallUIAdapter | .providerDidReset | .callTimerFired .. => .isTrue trivial

theorem run_of_enabled {events : List Event} (h : LabelledRun.Along handle Enabled s events) :
    LabelledRun Step s events (events.foldl handle s) :=
  .of_along (fun _ _ henabled => ⟨henabled, rfl⟩) h

theorem everyStep_of_along {events : List Event} {p : CallService → Event → Prop}
    (h : LabelledRun.Along handle p s events) :
    LabelledRun.EveryStep Step s events fun s event _ => p s event :=
  LabelledRun.everyStep_of_along (fun _ _ _ hstep => hstep.2) h

end CallService

end ObjcSwiftLearning.Signal
