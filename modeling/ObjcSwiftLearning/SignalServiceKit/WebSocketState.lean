import Mathlib.Data.Int.Order.Basic
import ObjcSwiftLearning.SignalServiceKit.SocketRequests

/-!
# The state of the websocket

`OWSWebSocket` has three tiers of state: the socket with its timers, the property `state`, and
what the desired state is determined from.  Delegate calls, timers and notifications set
`state`, or align it with the desired state; `setState:` keeps the socket and the heartbeat
in step with it.

* `OWSWebSocket.setState` — the second tier changes, and the first with it.
* `OWSWebSocket.applyDesiredSocketState` — the second tier is aligned with the third.
* `OWSWebSocket.handle` — what each event does, on the main thread.

The app is ready: whatever reaches the socket waits for that.  A change of the registration
or of the censorship is seen with its notification.  A handler reads the clock once; dates
are in milliseconds.  Failing the pending requests is not in here.
-/

namespace ObjcSwiftLearning.SignalServiceKit

inductive OWSWebSocketType where
  | default
  | ud
deriving DecidableEq

inductive SRReadyState where
  | connecting
  | opened
  | closing
  | closed
deriving DecidableEq

/-- The order in which a socket goes through its states. -/
def SRReadyState.rawValue : SRReadyState → ℕ
  | .connecting => 0
  | .opened => 1
  | .closing => 2
  | .closed => 3

structure SRWebSocket where
  number : ℕ
  readyState : SRReadyState

/-- `OWSWebSocket`, and what it asks of the app. -/
structure OWSWebSocket where
  webSocketType : OWSWebSocketType
  isMainApp : Bool
  isRegistered : Bool
  isCensorshipCircumventionActive : Bool
  websocket : Option SRWebSocket
  /-- How many sockets have been made. -/
  socketCount : ℕ
  heartbeatTimer : Bool
  reconnectTimer : Bool
  state : OWSWebSocketState
  canMakeRequests : Bool
  backgroundKeepAliveUntilDate : Option ℤ
  backgroundKeepAliveTimer : Bool
  /-- The task, and whether it is running. -/
  backgroundTask : Option Bool
  appIsActive : Bool
  hasObservedNotifications : Bool
  /-- How many envelopes are being processed, and will be acknowledged. -/
  envelopes : ℕ
  /-- How many responses are being processed. -/
  responses : ℕ

/-- `kBackgroundOpenSocketDurationSeconds`. -/
def backgroundOpenSocketDuration : ℤ := 25000

/-- `kBackgroundKeepSocketAliveDurationSeconds`. -/
def backgroundKeepSocketAliveDuration : ℤ := 15000

def makeRequestKeepSocketAliveDuration : ℤ := 30000

namespace OWSWebSocket

variable (socket : OWSWebSocket)

def initial (webSocketType : OWSWebSocketType)
    (isMainApp isRegistered isCensorshipCircumventionActive : Bool) : OWSWebSocket where
  webSocketType := webSocketType
  isMainApp := isMainApp
  isRegistered := isRegistered
  isCensorshipCircumventionActive := isCensorshipCircumventionActive
  websocket := none
  socketCount := 0
  heartbeatTimer := false
  reconnectTimer := false
  state := .closed
  canMakeRequests := false
  backgroundKeepAliveUntilDate := none
  backgroundKeepAliveTimer := false
  backgroundTask := none
  appIsActive := false
  hasObservedNotifications := false
  envelopes := 0
  responses := 0

/-! ## Setting the state -/

def resetSocket : OWSWebSocket :=
  { socket with
    websocket := none
    heartbeatTimer := false }

def clearReconnect : OWSWebSocket := { socket with reconnectTimer := false }

def ensureReconnect : OWSWebSocket := { socket with reconnectTimer := true }

def setState (state : OWSWebSocketState) : OWSWebSocket :=
  if socket.state = state then socket
  else
    match state with
    | .closed => { socket.resetSocket with state := .closed, canMakeRequests := false }
    | .opened =>
        { socket.clearReconnect with
          heartbeatTimer := true
          state := .opened
          canMakeRequests := true }
    | .connecting =>
        { socket.resetSocket with
          websocket := some ⟨socket.socketCount, .connecting⟩
          socketCount := socket.socketCount + 1
          state := .connecting
          canMakeRequests := false }

def closeWebSocket : OWSWebSocket := socket.setState .closed

def ensureWebsocketIsOpen : OWSWebSocket :=
  match socket.websocket with
  | some ⟨_, .opened⟩ => socket.setState .opened
  | some ⟨_, .connecting⟩ => socket.setState .connecting
  | _ => (socket.setState .closed).setState .connecting

/-! ## The desired state -/

def shouldSocketBeOpen (now : ℤ) : Bool :=
  if !socket.isMainApp then false
  else if !socket.isRegistered then false
  else if socket.isCensorshipCircumventionActive then false
  else if socket.appIsActive then true
  else
    match socket.backgroundKeepAliveUntilDate with
    | some untilDate => 0 < untilDate - now
    | none => false

/-- What `clearBackgroundState` sets to nil. -/
def resetBackgroundState : OWSWebSocket :=
  { socket with
    backgroundKeepAliveUntilDate := none
    backgroundKeepAliveTimer := false
    backgroundTask := none }

/-- `applyDesiredSocketState` once there is no background task left to end. -/
def alignSocketState (now : ℤ) : OWSWebSocket :=
  if socket.shouldSocketBeOpen now then
    (if socket.state ≠ .opened then socket.ensureReconnect else socket).ensureWebsocketIsOpen
  else socket.resetBackgroundState.clearReconnect.closeWebSocket

/-- `clearBackgroundState`.  A running task ends when it is deallocated, and its completion
block applies the desired state. -/
def clearBackgroundState (now : ℤ) : OWSWebSocket :=
  if socket.backgroundTask = some true then socket.resetBackgroundState.alignSocketState now
  else socket.resetBackgroundState

def applyDesiredSocketState (now : ℤ) : OWSWebSocket :=
  if socket.shouldSocketBeOpen now then
    (if socket.state ≠ .opened then socket.ensureReconnect else socket).ensureWebsocketIsOpen
  else (socket.clearBackgroundState now).clearReconnect.closeWebSocket

/-- `requestSocketAliveForAtLeastSeconds:`.  A background task that cannot be started calls
its completion block at once. -/
def requestSocketAlive (duration : ℤ) (couldStart : Bool) (now : ℤ) : OWSWebSocket :=
  if socket.appIsActive then (socket.clearBackgroundState now).applyDesiredSocketState now
  else
    match socket.backgroundKeepAliveUntilDate with
    | none =>
        let activated :=
          { socket with
            backgroundKeepAliveUntilDate := some (now + duration)
            backgroundKeepAliveTimer := true }
        if couldStart then
          { activated with backgroundTask := some true }.applyDesiredSocketState now
        else
          { activated.applyDesiredSocketState now with
            backgroundTask := some false }.applyDesiredSocketState now
    | some untilDate =>
        -- The date is only ever put off.
        if untilDate - now < duration then
          { socket with
            backgroundKeepAliveUntilDate := some (now + duration) }.applyDesiredSocketState now
        else socket.applyDesiredSocketState now

def handleSocketFailure (now : ℤ) : OWSWebSocket :=
  if socket.closeWebSocket.shouldSocketBeOpen now then socket.closeWebSocket.ensureReconnect
  else socket.closeWebSocket.applyDesiredSocketState now

def cycleSocket (now : ℤ) : OWSWebSocket := socket.closeWebSocket.applyDesiredSocketState now

/-- Writing to the socket fails unless it is open; there may be none. -/
def failsToWrite : Bool :=
  match socket.websocket with
  | some websocket => websocket.readyState ≠ .opened
  | none => false

def webSocketHeartBeat (now : ℤ) : OWSWebSocket :=
  if socket.shouldSocketBeOpen now then
    if socket.failsToWrite then socket.handleSocketFailure now else socket
  else socket.closeWebSocket.applyDesiredSocketState now

def sendWebSocketMessageAcknowledgement (now : ℤ) : OWSWebSocket :=
  if socket.failsToWrite then socket.handleSocketFailure now else socket

def observeNotificationsIfNecessary (isMainAppAndActive : Bool) : OWSWebSocket :=
  if socket.hasObservedNotifications then socket
  else
    { socket with
      hasObservedNotifications := true
      appIsActive := isMainAppAndActive }

/-! ## The events -/

/-- What `didReceiveMessage:` receives. -/
inductive SocketMessageKind where
  /-- What cannot be parsed, or is of an unknown type. -/
  | other
  | envelope
  | otherRequest
  | response

/-- What happens, with the time on the clock.  Delegate calls come with the number of their
socket. -/
inductive Event where
  /-- The socket itself goes from one state to a later one. -/
  | readyStateDidChange (readyState : SRReadyState)
  | webSocketDidOpen (number : ℕ)
  | didFailWithError (number : ℕ) (now : ℤ)
  | didClose (number : ℕ) (now : ℤ)
  | didReceiveMessage (number : ℕ) (kind : SocketMessageKind) (couldStart : Bool) (now : ℤ)
  | envelopeProcessed (now : ℤ)
  | responseProcessed (couldStart : Bool) (now : ℤ)
  | heartbeatTimerFired (now : ℤ)
  | reconnectTimerFired (now : ℤ)
  | backgroundKeepAliveTimerFired (now : ℤ)
  | backgroundTaskExpired (now : ℤ)
  | applicationDidBecomeActive (now : ℤ)
  | applicationWillResignActive (now : ℤ)
  | registrationStateDidChange (isRegistered : Bool) (now : ℤ)
  | isCensorshipCircumventionActiveDidChange (isActive : Bool) (now : ℤ)
  | deviceListUpdateModifiedDeviceList (now : ℤ)
  | requestSocketOpen (isMainAppAndActive couldStart : Bool) (now : ℤ)
  | cycleSocket (now : ℤ)

def IsCurrent (number : ℕ) : Prop := socket.websocket.map SRWebSocket.number = some number

instance (number : ℕ) : Decidable (socket.IsCurrent number) :=
  inferInstanceAs (Decidable (_ = _))

/-- `webSocket:didReceiveMessage:` of the current socket. -/
def didReceiveMessage (kind : SocketMessageKind) (couldStart : Bool) (now : ℤ) : OWSWebSocket :=
  match kind with
  | .other => socket
  | .envelope =>
      { socket.requestSocketAlive backgroundKeepSocketAliveDuration couldStart now with
        envelopes := socket.envelopes + 1 }
  | .otherRequest =>
      (socket.requestSocketAlive backgroundKeepSocketAliveDuration couldStart
        now).sendWebSocketMessageAcknowledgement now
  | .response => { socket with responses := socket.responses + 1 }

/-- An event is handled.  A timer that is not set does not fire. -/
def handle : Event → OWSWebSocket
  | .readyStateDidChange readyState =>
      match socket.websocket with
      | some websocket =>
          if websocket.readyState.rawValue < readyState.rawValue then
            { socket with websocket := some { websocket with readyState } }
          else socket
      | none => socket
  | .webSocketDidOpen number =>
      if socket.IsCurrent number then socket.setState .opened else socket
  | .didFailWithError number now =>
      if socket.IsCurrent number then socket.handleSocketFailure now else socket
  | .didClose number now =>
      if socket.IsCurrent number then socket.handleSocketFailure now else socket
  | .didReceiveMessage number kind couldStart now =>
      if socket.IsCurrent number then socket.didReceiveMessage kind couldStart now else socket
  | .envelopeProcessed now =>
      if 0 < socket.envelopes then
        { socket with
          envelopes := socket.envelopes - 1 }.sendWebSocketMessageAcknowledgement now
      else socket
  | .responseProcessed couldStart now =>
      if 0 < socket.responses then
        { socket with
          responses := socket.responses - 1 }.requestSocketAlive
            makeRequestKeepSocketAliveDuration couldStart now
      else socket
  | .heartbeatTimerFired now =>
      if socket.heartbeatTimer then socket.webSocketHeartBeat now else socket
  | .reconnectTimerFired now =>
      if socket.reconnectTimer then socket.applyDesiredSocketState now else socket
  | .backgroundKeepAliveTimerFired now =>
      if socket.backgroundKeepAliveTimer then socket.applyDesiredSocketState now else socket
  | .backgroundTaskExpired now =>
      if socket.backgroundTask = some true then
        { socket with
          backgroundTask := some false }.clearBackgroundState now |>.applyDesiredSocketState now
      else socket
  | .applicationDidBecomeActive now =>
      if socket.hasObservedNotifications then
        { socket with appIsActive := true }.applyDesiredSocketState now
      else socket
  | .applicationWillResignActive now =>
      if socket.hasObservedNotifications then
        { socket with appIsActive := false }.applyDesiredSocketState now
      else socket
  | .registrationStateDidChange isRegistered now =>
      if socket.hasObservedNotifications then
        { socket with isRegistered }.applyDesiredSocketState now
      else { socket with isRegistered }
  | .isCensorshipCircumventionActiveDidChange isActive now =>
      if socket.hasObservedNotifications then
        { socket with isCensorshipCircumventionActive := isActive }.applyDesiredSocketState now
      else { socket with isCensorshipCircumventionActive := isActive }
  | .deviceListUpdateModifiedDeviceList now =>
      if socket.hasObservedNotifications ∧ socket.webSocketType = .default then
        socket.cycleSocket now
      else socket
  | .requestSocketOpen isMainAppAndActive couldStart now =>
      (socket.observeNotificationsIfNecessary isMainAppAndActive).requestSocketAlive
        backgroundOpenSocketDuration couldStart now
  | .cycleSocket now => socket.cycleSocket now

def Step (socket : OWSWebSocket) (event : Event) (socket' : OWSWebSocket) : Prop :=
  socket' = socket.handle event

end OWSWebSocket

end ObjcSwiftLearning.SignalServiceKit
