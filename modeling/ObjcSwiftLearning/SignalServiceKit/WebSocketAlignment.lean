import ObjcSwiftLearning.SignalServiceKit.WebSocketState

/-!
# The websocket stays aligned

Whatever the order of the events, the socket, the heartbeat and `canMakeRequests` go with
`state`.  A socket that should be open and is not is being reconnected, because each handler
that leaves it so has started the reconnect timer first.  One does not: where the socket has
closed, `state` has yet to hear of it, and the desired state is applied.

* `OWSWebSocket.InStep` — the socket, the heartbeat and `canMakeRequests` go with the state.
* `OWSWebSocket.IsReconnecting` — a socket that should be open and is not is being reconnected.
* `OWSWebSocket.IsSettled` — what the handlers keep, whatever the clock says later.
* `OWSWebSocket.socket_stays_aligned` — every run keeps the first; and the second, as long as
  each event finds the socket alive.
* `OWSWebSocket.dead_socket_not_reconnecting` — a socket that is found dead.
-/

namespace ObjcSwiftLearning.SignalServiceKit

namespace OWSWebSocket

variable {socket : OWSWebSocket} {state : OWSWebSocketState} {event : Event} {now duration : ℤ}
  {couldStart : Bool} {other : OWSWebSocket}

/-! ## What only events change -/

/-- What the handlers read, and leave as the event has it. -/
structure Circumstances where
  isMainApp : Bool
  isRegistered : Bool
  isCensorshipCircumventionActive : Bool
  appIsActive : Bool
  hasObservedNotifications : Bool

def circumstances (socket : OWSWebSocket) : Circumstances where
  isMainApp := socket.isMainApp
  isRegistered := socket.isRegistered
  isCensorshipCircumventionActive := socket.isCensorshipCircumventionActive
  appIsActive := socket.appIsActive
  hasObservedNotifications := socket.hasObservedNotifications

@[simp] theorem circumstances_setState :
    (socket.setState state).circumstances = socket.circumstances := by
  rw [setState.eq_def]
  split
  · rfl
  · cases state <;> rfl

@[simp] theorem circumstances_ensureWebsocketIsOpen :
    socket.ensureWebsocketIsOpen.circumstances = socket.circumstances := by
  rw [ensureWebsocketIsOpen]
  split <;> simp

@[simp] theorem circumstances_alignSocketState :
    (socket.alignSocketState now).circumstances = socket.circumstances := by
  rw [alignSocketState]
  split
  · split
    · exact circumstances_ensureWebsocketIsOpen
    · exact circumstances_ensureWebsocketIsOpen
  · exact circumstances_setState

@[simp] theorem circumstances_clearBackgroundState :
    (socket.clearBackgroundState now).circumstances = socket.circumstances := by
  rw [clearBackgroundState]
  split
  · exact circumstances_alignSocketState
  · rfl

@[simp] theorem circumstances_applyDesiredSocketState :
    (socket.applyDesiredSocketState now).circumstances = socket.circumstances := by
  rw [applyDesiredSocketState]
  split
  · split
    · exact circumstances_ensureWebsocketIsOpen
    · exact circumstances_ensureWebsocketIsOpen
  · exact circumstances_setState.trans circumstances_clearBackgroundState

@[simp] theorem circumstances_requestSocketAlive :
    (socket.requestSocketAlive duration couldStart now).circumstances = socket.circumstances := by
  rw [requestSocketAlive]
  split
  · rw [circumstances_applyDesiredSocketState, circumstances_clearBackgroundState]
  · split
    · dsimp only
      split
      · exact circumstances_applyDesiredSocketState
      · exact circumstances_applyDesiredSocketState.trans circumstances_applyDesiredSocketState
    · split
      · exact circumstances_applyDesiredSocketState
      · exact circumstances_applyDesiredSocketState

@[simp] theorem circumstances_cycleSocket :
    (socket.cycleSocket now).circumstances = socket.circumstances := by
  rw [cycleSocket, circumstances_applyDesiredSocketState]
  exact circumstances_setState

@[simp] theorem circumstances_handleSocketFailure :
    (socket.handleSocketFailure now).circumstances = socket.circumstances := by
  rw [handleSocketFailure]
  split
  · exact circumstances_setState
  · exact circumstances_cycleSocket

@[simp] theorem circumstances_webSocketHeartBeat :
    (socket.webSocketHeartBeat now).circumstances = socket.circumstances := by
  rw [webSocketHeartBeat]
  split
  · split
    · exact circumstances_handleSocketFailure
    · rfl
  · exact circumstances_cycleSocket

@[simp] theorem circumstances_sendWebSocketMessageAcknowledgement :
    (socket.sendWebSocketMessageAcknowledgement now).circumstances = socket.circumstances := by
  rw [sendWebSocketMessageAcknowledgement]
  split
  · exact circumstances_handleSocketFailure
  · rfl

/-! ## The socket goes with the state -/

/-- The socket, the heartbeat and `canMakeRequests` are as the state has it. -/
structure InStep (socket : OWSWebSocket) : Prop where
  websocket : socket.websocket = none ↔ socket.state = .closed
  heartbeatTimer : socket.heartbeatTimer = true ↔ socket.state = .opened
  canMakeRequests : socket.canMakeRequests = true ↔ socket.state = .opened

/-- A change of other things. -/
theorem InStep.of_eq {socket' : OWSWebSocket} (h : socket.InStep)
    (websocket : socket'.websocket = none ↔ socket.websocket = none)
    (heartbeatTimer : socket'.heartbeatTimer = socket.heartbeatTimer)
    (state : socket'.state = socket.state)
    (canMakeRequests : socket'.canMakeRequests = socket.canMakeRequests) : socket'.InStep where
  websocket := by rw [websocket, state]; exact h.websocket
  heartbeatTimer := by rw [heartbeatTimer, state]; exact h.heartbeatTimer
  canMakeRequests := by rw [canMakeRequests, state]; exact h.canMakeRequests

section

variable (h : socket.InStep)
include h

/-- **`setState:` keeps them in step**; only a socket that there is can be open. -/
theorem InStep.setState (exists_of_opened : state = .opened → socket.websocket ≠ none) :
    (socket.setState state).InStep := by
  rw [setState.eq_def]
  split
  · exact h
  · cases state with
    | closed => constructor <;> simp [resetSocket]
    | connecting => constructor <;> simp [resetSocket]
    | opened =>
        have hexists := exists_of_opened rfl
        constructor <;> simp [clearReconnect, hexists]

theorem InStep.closeWebSocket : socket.closeWebSocket.InStep :=
  h.setState (by simp)

theorem InStep.ensureReconnect : socket.ensureReconnect.InStep :=
  h.of_eq Iff.rfl rfl rfl rfl

theorem InStep.ensureWebsocketIsOpen : socket.ensureWebsocketIsOpen.InStep := by
  rw [OWSWebSocket.ensureWebsocketIsOpen]
  split
  · next number hsocket => exact h.setState fun _ hnone => by rw [hsocket] at hnone; cases hnone
  · exact h.setState (by simp)
  · exact (h.setState (by simp)).setState (by simp)

/-- The branch of `applyDesiredSocketState` in which the socket should be open. -/
theorem InStep.ensureOpen :
    (if socket.state ≠ .opened then socket.ensureReconnect
      else socket).ensureWebsocketIsOpen.InStep := by
  split
  · exact h.ensureReconnect.ensureWebsocketIsOpen
  · exact h.ensureWebsocketIsOpen

theorem InStep.resetBackgroundState : socket.resetBackgroundState.InStep :=
  h.of_eq Iff.rfl rfl rfl rfl

theorem InStep.clearReconnect : socket.clearReconnect.InStep :=
  h.of_eq Iff.rfl rfl rfl rfl

theorem InStep.alignSocketState : (socket.alignSocketState now).InStep := by
  rw [OWSWebSocket.alignSocketState]
  split
  · exact h.ensureOpen
  · exact h.resetBackgroundState.clearReconnect.closeWebSocket

theorem InStep.clearBackgroundState : (socket.clearBackgroundState now).InStep := by
  rw [OWSWebSocket.clearBackgroundState]
  split
  · exact h.resetBackgroundState.alignSocketState
  · exact h.resetBackgroundState

end

theorem InStep.applyDesiredSocketState (h : socket.InStep) :
    (socket.applyDesiredSocketState now).InStep := by
  rw [OWSWebSocket.applyDesiredSocketState]
  split
  · exact h.ensureOpen
  · exact h.clearBackgroundState.clearReconnect.closeWebSocket

section

variable (h : socket.InStep)
include h

theorem InStep.withBackgroundState (untilDate : Option ℤ) (timer : Bool) (task : Option Bool) :
    { socket with
      backgroundKeepAliveUntilDate := untilDate
      backgroundKeepAliveTimer := timer
      backgroundTask := task }.InStep :=
  h.of_eq Iff.rfl rfl rfl rfl

theorem InStep.requestSocketAlive : (socket.requestSocketAlive duration couldStart now).InStep := by
  rw [OWSWebSocket.requestSocketAlive]
  split
  · exact h.clearBackgroundState.applyDesiredSocketState
  · split
    · dsimp only
      split
      · exact (h.withBackgroundState _ _ _).applyDesiredSocketState
      · have hactivated := @InStep.applyDesiredSocketState _ now
          (h.withBackgroundState (some (now + duration)) true socket.backgroundTask)
        exact InStep.applyDesiredSocketState (hactivated.of_eq Iff.rfl rfl rfl rfl)
    · split
      · exact (h.withBackgroundState _ _ _).applyDesiredSocketState
      · exact h.applyDesiredSocketState

theorem InStep.cycleSocket : (socket.cycleSocket now).InStep :=
  h.closeWebSocket.applyDesiredSocketState

theorem InStep.handleSocketFailure : (socket.handleSocketFailure now).InStep := by
  rw [OWSWebSocket.handleSocketFailure]
  split
  · exact h.closeWebSocket.ensureReconnect
  · exact h.cycleSocket

theorem InStep.webSocketHeartBeat : (socket.webSocketHeartBeat now).InStep := by
  rw [OWSWebSocket.webSocketHeartBeat]
  split
  · split
    · exact h.handleSocketFailure
    · exact h
  · exact h.cycleSocket

theorem InStep.sendWebSocketMessageAcknowledgement :
    (socket.sendWebSocketMessageAcknowledgement now).InStep := by
  rw [OWSWebSocket.sendWebSocketMessageAcknowledgement]
  split
  · exact h.handleSocketFailure
  · exact h

/-- **Every event keeps the socket in step.** -/
theorem InStep.handle (event : Event) : (socket.handle event).InStep := by
  cases event with
  | readyStateDidChange readyState =>
      rw [OWSWebSocket.handle]
      split
      · next websocket hsocket =>
          split
          · exact h.of_eq (by simp [hsocket]) rfl rfl rfl
          · exact h
      · exact h
  | webSocketDidOpen number =>
      rw [OWSWebSocket.handle]
      split
      · next hcurrent =>
          -- There is a socket, since it is the current one that has opened.
          refine h.setState fun _ hnone => ?_
          rw [IsCurrent, hnone] at hcurrent
          cases hcurrent
      · exact h
  | didFailWithError number now | didClose number now =>
      rw [OWSWebSocket.handle]
      split
      · exact h.handleSocketFailure
      · exact h
  | didReceiveMessage number kind couldStart now =>
      rw [OWSWebSocket.handle]
      split
      · cases kind with
        | other => exact h
        | envelope => exact h.requestSocketAlive.of_eq Iff.rfl rfl rfl rfl
        | otherRequest => exact h.requestSocketAlive.sendWebSocketMessageAcknowledgement
        | response => exact h.of_eq Iff.rfl rfl rfl rfl
      · exact h
  | envelopeProcessed now =>
      rw [OWSWebSocket.handle]
      split
      · exact InStep.sendWebSocketMessageAcknowledgement (h.of_eq Iff.rfl rfl rfl rfl)
      · exact h
  | responseProcessed couldStart now =>
      rw [OWSWebSocket.handle]
      split
      · exact InStep.requestSocketAlive (h.of_eq Iff.rfl rfl rfl rfl)
      · exact h
  | heartbeatTimerFired now =>
      rw [OWSWebSocket.handle]
      split
      · exact h.webSocketHeartBeat
      · exact h
  | reconnectTimerFired now | backgroundKeepAliveTimerFired now =>
      rw [OWSWebSocket.handle]
      split
      · exact h.applyDesiredSocketState
      · exact h
  | backgroundTaskExpired now =>
      rw [OWSWebSocket.handle]
      split
      · exact InStep.applyDesiredSocketState
          (InStep.clearBackgroundState (h.of_eq Iff.rfl rfl rfl rfl))
      · exact h
  | applicationDidBecomeActive now | applicationWillResignActive now =>
      rw [OWSWebSocket.handle]
      split
      · exact InStep.applyDesiredSocketState (h.of_eq Iff.rfl rfl rfl rfl)
      · exact h
  | registrationStateDidChange isRegistered now
  | isCensorshipCircumventionActiveDidChange isActive now =>
      rw [OWSWebSocket.handle]
      split
      · exact InStep.applyDesiredSocketState (h.of_eq Iff.rfl rfl rfl rfl)
      · exact h.of_eq Iff.rfl rfl rfl rfl
  | deviceListUpdateModifiedDeviceList now =>
      rw [OWSWebSocket.handle]
      split
      · exact h.cycleSocket
      · exact h
  | requestSocketOpen isMainAppAndActive couldStart now =>
      refine InStep.requestSocketAlive ?_
      rw [observeNotificationsIfNecessary]
      split
      · exact h
      · exact h.of_eq Iff.rfl rfl rfl rfl
  | cycleSocket now => exact h.cycleSocket

end

/-! ## A socket that should be open -/

/-- The app wants a socket, as long as the clock has not run out. -/
def IsWanted (socket : OWSWebSocket) : Prop :=
  socket.isMainApp = true ∧ socket.isRegistered = true ∧
    socket.isCensorshipCircumventionActive = false ∧
      (socket.appIsActive = true ∨ socket.backgroundKeepAliveUntilDate.isSome = true)

theorem isWanted_of_shouldSocketBeOpen (h : socket.shouldSocketBeOpen now = true) :
    socket.IsWanted := by
  rw [shouldSocketBeOpen] at h
  split at h
  · cases h
  · next hmain =>
      split at h
      · cases h
      · next hregistered =>
          split at h
          · cases h
          · next hcircumvents =>
              refine ⟨by simpa using hmain, by simpa using hregistered, by simpa using hcircumvents,
                ?_⟩
              split at h
              · next hactive => exact .inl hactive
              · split at h
                · next untilDate hdate => exact .inr (by rw [hdate]; rfl)
                · cases h

theorem shouldSocketBeOpen_congr (circumstances : other.circumstances = socket.circumstances)
    (date : other.backgroundKeepAliveUntilDate = socket.backgroundKeepAliveUntilDate) :
    other.shouldSocketBeOpen now = socket.shouldSocketBeOpen now := by
  obtain ⟨hmain, hregistered, hcircumvents, hactive, -⟩ :=
    Circumstances.mk.inj circumstances
  rw [shouldSocketBeOpen, shouldSocketBeOpen, hmain, hregistered, hcircumvents, hactive, date]

/-- The socket is open, or being reconnected, or not wanted. -/
def IsSettled (socket : OWSWebSocket) : Prop :=
  socket.state ≠ .opened → socket.reconnectTimer = false → ¬socket.IsWanted

/-- A socket that should be open and is not is being reconnected. -/
def IsReconnecting (socket : OWSWebSocket) : Prop :=
  ∀ now, socket.shouldSocketBeOpen now = true → socket.state ≠ .opened →
    socket.reconnectTimer = true

theorem IsSettled.isReconnecting (h : socket.IsSettled) : socket.IsReconnecting := by
  intro now hshould hclosed
  by_contra hnot
  exact h hclosed (by simpa using hnot) (isWanted_of_shouldSocketBeOpen hshould)

/-- If the socket should be open and `state` is open, then the socket is. -/
def IsAlive (socket : OWSWebSocket) (now : ℤ) : Prop :=
  socket.shouldSocketBeOpen now = true → socket.state = .opened → socket.failsToWrite = false

/-- Setting the state leaves the reconnect timer alone, unless it opens. -/
theorem reconnectTimer_setState (h : (socket.setState state).state ≠ .opened) :
    (socket.setState state).reconnectTimer = socket.reconnectTimer := by
  rw [setState.eq_def] at h ⊢
  split at h
  · next hsame => rw [if_pos hsame]
  · next hdiffers =>
      rw [if_neg hdiffers]
      cases state with
      | closed => rfl
      | connecting => rfl
      | opened => exact absurd rfl h

theorem state_setState : (socket.setState state).state = state := by
  rw [setState.eq_def]
  split
  · next hsame => exact hsame
  · cases state <;> rfl

theorem reconnectTimer_ensureWebsocketIsOpen (h : socket.ensureWebsocketIsOpen.state ≠ .opened) :
    socket.ensureWebsocketIsOpen.reconnectTimer = socket.reconnectTimer := by
  rw [ensureWebsocketIsOpen] at h ⊢
  split at h
  · exact absurd state_setState h
  · exact reconnectTimer_setState h
  · rw [reconnectTimer_setState h, reconnectTimer_setState]
    rw [state_setState]
    simp

theorem ensureWebsocketIsOpen_of_alive (h : socket.InStep) (opened : socket.state = .opened)
    (alive : socket.failsToWrite = false) : socket.ensureWebsocketIsOpen = socket := by
  cases hsocket : socket.websocket with
  | none =>
      rw [h.websocket.mp hsocket] at opened
      cases opened
  | some websocket =>
      obtain ⟨number, readyState⟩ := websocket
      have hopened : readyState = .opened := by simpa [failsToWrite, hsocket] using alive
      rw [ensureWebsocketIsOpen, hsocket, hopened, setState.eq_def, if_pos opened]

/-- Whatever is open after `ensureWebsocketIsOpen` can be written to. -/
theorem failsToWrite_ensureWebsocketIsOpen (h : socket.ensureWebsocketIsOpen.state = .opened) :
    socket.ensureWebsocketIsOpen.failsToWrite = false := by
  rw [ensureWebsocketIsOpen] at h ⊢
  split at h
  · next number hsocket =>
      have hsame : (socket.setState .opened).websocket = socket.websocket := by
        rw [setState.eq_def]
        split <;> rfl
      simp [failsToWrite, hsame, hsocket]
  · rw [state_setState] at h
    cases h
  · rw [state_setState] at h
    cases h

/-- **The branch in which the socket should be open** leaves it open or reconnecting. -/
theorem isSettled_ensureOpen (h : socket.InStep)
    (alive : socket.state = .opened → socket.failsToWrite = false) :
    (if socket.state ≠ .opened then socket.ensureReconnect
      else socket).ensureWebsocketIsOpen.IsSettled := by
  intro hclosed hnot
  split at hclosed
  · next hbefore =>
      rw [if_pos hbefore, reconnectTimer_ensureWebsocketIsOpen hclosed] at hnot
      cases hnot
  · next hopened =>
      have hopened : socket.state = .opened := by simpa using hopened
      rw [ensureWebsocketIsOpen_of_alive h hopened (alive hopened)] at hclosed
      exact absurd hopened hclosed

theorem backgroundKeepAliveUntilDate_setState :
    (socket.setState state).backgroundKeepAliveUntilDate = socket.backgroundKeepAliveUntilDate := by
  rw [setState.eq_def]
  split
  · rfl
  · cases state <;> rfl

theorem backgroundKeepAliveUntilDate_ensureWebsocketIsOpen :
    socket.ensureWebsocketIsOpen.backgroundKeepAliveUntilDate =
      socket.backgroundKeepAliveUntilDate := by
  rw [ensureWebsocketIsOpen]
  split <;> simp only [backgroundKeepAliveUntilDate_setState]

theorem backgroundKeepAliveUntilDate_clearBackgroundState :
    (socket.clearBackgroundState now).backgroundKeepAliveUntilDate = none := by
  rw [clearBackgroundState]
  split
  · rw [alignSocketState]
    split
    · rw [backgroundKeepAliveUntilDate_ensureWebsocketIsOpen]
      split <;> rfl
    · exact backgroundKeepAliveUntilDate_setState
  · rfl

/-- **Applying the desired state settles the socket**, if it is alive. -/
theorem isSettled_applyDesiredSocketState (h : socket.InStep) (alive : socket.IsAlive now) :
    (socket.applyDesiredSocketState now).IsSettled := by
  rw [applyDesiredSocketState]
  split
  · next hshould => exact isSettled_ensureOpen h (alive hshould)
  · next hshould =>
      -- What is still wanted without a date should have been open.
      rintro - - ⟨hmain, hregistered, hcircumvents, hactive | hdate⟩
      · have hcircumstances :
            ((socket.clearBackgroundState now).clearReconnect.closeWebSocket).circumstances =
              socket.circumstances :=
          circumstances_setState.trans circumstances_clearBackgroundState
        obtain ⟨hmain', hregistered', hcircumvents', hactive', -⟩ :=
          Circumstances.mk.inj hcircumstances
        refine hshould ?_
        rw [shouldSocketBeOpen, ← hmain', ← hregistered', ← hcircumvents', ← hactive', hmain,
          hregistered, hcircumvents, hactive]
        rfl
      · have hnone : ((socket.clearBackgroundState
            now).clearReconnect.closeWebSocket).backgroundKeepAliveUntilDate = none :=
          backgroundKeepAliveUntilDate_setState.trans
            backgroundKeepAliveUntilDate_clearBackgroundState
        rw [hnone] at hdate
        cases hdate

theorem failsToWrite_applyDesiredSocketState
    (opened : (socket.applyDesiredSocketState now).state = .opened) :
    (socket.applyDesiredSocketState now).failsToWrite = false := by
  rw [applyDesiredSocketState] at opened ⊢
  split at opened
  · next hshould =>
      rw [if_pos hshould]
      exact failsToWrite_ensureWebsocketIsOpen opened
  · rw [closeWebSocket, state_setState] at opened
    cases opened

theorem failsToWrite_alignSocketState (opened : (socket.alignSocketState now).state = .opened) :
    (socket.alignSocketState now).failsToWrite = false := by
  rw [alignSocketState] at opened ⊢
  split at opened
  · next hshould =>
      rw [if_pos hshould]
      exact failsToWrite_ensureWebsocketIsOpen opened
  · rw [closeWebSocket, state_setState] at opened
    cases opened

theorem IsAlive.congr (h : socket.IsAlive now)
    (circumstances : other.circumstances = socket.circumstances)
    (date : other.backgroundKeepAliveUntilDate = socket.backgroundKeepAliveUntilDate)
    (state : other.state = socket.state) (websocket : other.websocket = socket.websocket) :
    other.IsAlive now := by
  intro hshould hopened
  rw [shouldSocketBeOpen_congr circumstances date] at hshould
  rw [state] at hopened
  rw [failsToWrite, websocket]
  exact h hshould hopened

/-- What `requestSocketAliveForAtLeastSeconds:` does before it applies the desired state. -/
def keptAlive (socket : OWSWebSocket) (duration now : ℤ) : OWSWebSocket :=
  if socket.appIsActive then socket.resetBackgroundState
  else
    match socket.backgroundKeepAliveUntilDate with
    | none => { socket with backgroundKeepAliveUntilDate := some (now + duration) }
    | some untilDate =>
        if untilDate - now < duration then
          { socket with backgroundKeepAliveUntilDate := some (now + duration) }
        else socket

/-- **Keeping the socket alive** settles it, if it is. -/
theorem isSettled_requestSocketAlive (h : socket.InStep)
    (alive : (socket.keptAlive duration now).IsAlive now) :
    (socket.requestSocketAlive duration couldStart now).IsSettled := by
  rw [keptAlive] at alive
  rw [requestSocketAlive]
  by_cases hactive : socket.appIsActive = true
  · rw [if_pos hactive] at alive ⊢
    refine isSettled_applyDesiredSocketState h.clearBackgroundState ?_
    rw [clearBackgroundState]
    split
    · exact fun _ => failsToWrite_alignSocketState
    · exact alive
  · rw [if_neg hactive] at alive ⊢
    cases huntil : socket.backgroundKeepAliveUntilDate with
    | none =>
        simp only [huntil] at alive ⊢
        split
        · exact isSettled_applyDesiredSocketState
            (h.withBackgroundState (some (now + duration)) true (some true))
            (alive.congr rfl rfl rfl rfl)
        · have hactivated := @InStep.applyDesiredSocketState _ now
            (h.withBackgroundState (some (now + duration)) true socket.backgroundTask)
          refine isSettled_applyDesiredSocketState (hactivated.of_eq Iff.rfl rfl rfl rfl) ?_
          exact fun _ => failsToWrite_applyDesiredSocketState
    | some untilDate =>
        simp only [huntil] at alive ⊢
        split
        · next hshort =>
            rw [if_pos hshort] at alive
            exact isSettled_applyDesiredSocketState
              (h.withBackgroundState (some (now + duration)) _ _)
              (alive.congr rfl rfl rfl rfl)
        · next hlong =>
            rw [if_neg hlong] at alive
            exact isSettled_applyDesiredSocketState h alive

/-! ### The events -/

theorem isSettled_of_opened (h : socket.state = .opened) : socket.IsSettled :=
  fun hclosed => absurd h hclosed

/-- A change of other things. -/
theorem IsSettled.congr (h : socket.IsSettled)
    (circumstances : other.circumstances = socket.circumstances)
    (date : other.backgroundKeepAliveUntilDate = socket.backgroundKeepAliveUntilDate)
    (state : other.state = socket.state)
    (reconnectTimer : other.reconnectTimer = socket.reconnectTimer) : other.IsSettled := by
  intro hclosed hnot hwanted
  obtain ⟨hmain, hregistered, hcircumvents, hactive, -⟩ := Circumstances.mk.inj circumstances
  rw [state] at hclosed
  rw [reconnectTimer] at hnot
  rw [IsWanted, hmain, hregistered, hcircumvents, hactive, date] at hwanted
  exact h hclosed hnot hwanted

theorem isSettled_cycleSocket (h : socket.InStep) : (socket.cycleSocket now).IsSettled := by
  refine isSettled_applyDesiredSocketState h.closeWebSocket fun _ hopened => ?_
  rw [closeWebSocket, state_setState] at hopened
  cases hopened

theorem isSettled_handleSocketFailure (h : socket.InStep) :
    (socket.handleSocketFailure now).IsSettled := by
  rw [handleSocketFailure]
  split
  · intro _ hnot
    cases hnot
  · exact isSettled_cycleSocket h

theorem IsSettled.sendWebSocketMessageAcknowledgement (h : socket.InStep)
    (settled : socket.IsSettled) :
    (socket.sendWebSocketMessageAcknowledgement now).IsSettled := by
  rw [OWSWebSocket.sendWebSocketMessageAcknowledgement]
  split
  · exact isSettled_handleSocketFailure h
  · exact settled

theorem IsSettled.webSocketHeartBeat (h : socket.InStep) (settled : socket.IsSettled) :
    (socket.webSocketHeartBeat now).IsSettled := by
  rw [OWSWebSocket.webSocketHeartBeat]
  split
  · split
    · exact isSettled_handleSocketFailure h
    · exact settled
  · exact isSettled_cycleSocket h

/-- Before the notifications are observed there has been no socket. -/
def IsPristine (socket : OWSWebSocket) : Prop :=
  socket.hasObservedNotifications = false →
    socket.state = .closed ∧ socket.reconnectTimer = false ∧
      socket.backgroundKeepAliveUntilDate = none ∧ socket.backgroundKeepAliveTimer = false ∧
        socket.backgroundTask = none ∧ socket.appIsActive = false ∧ socket.responses = 0

/-- What the handler of an event has made of the third tier when it applies the desired
state, and the time; nothing, if it does not, or closes the socket first. -/
def noticed (socket : OWSWebSocket) : Event → Option (OWSWebSocket × ℤ)
  | .didReceiveMessage number kind _ now =>
      if socket.IsCurrent number then
        match kind with
        | .envelope => some (socket.keptAlive backgroundKeepSocketAliveDuration now, now)
        | .otherRequest => some (socket.keptAlive backgroundKeepSocketAliveDuration now, now)
        | _ => none
      else none
  | .responseProcessed _ now =>
      if 0 < socket.responses then
        some ({ socket with
          responses := socket.responses - 1 }.keptAlive makeRequestKeepSocketAliveDuration now, now)
      else none
  | .reconnectTimerFired now => if socket.reconnectTimer then some (socket, now) else none
  | .backgroundKeepAliveTimerFired now =>
      if socket.backgroundKeepAliveTimer then some (socket, now) else none
  | .backgroundTaskExpired now =>
      if socket.backgroundTask = some true then some (socket.resetBackgroundState, now) else none
  | .applicationDidBecomeActive now =>
      if socket.hasObservedNotifications then some ({ socket with appIsActive := true }, now)
      else none
  | .applicationWillResignActive now =>
      if socket.hasObservedNotifications then some ({ socket with appIsActive := false }, now)
      else none
  | .registrationStateDidChange isRegistered now =>
      if socket.hasObservedNotifications then some ({ socket with isRegistered }, now) else none
  | .isCensorshipCircumventionActiveDidChange isActive now =>
      if socket.hasObservedNotifications then
        some ({ socket with isCensorshipCircumventionActive := isActive }, now)
      else none
  | .requestSocketOpen isMainAppAndActive _ now =>
      some ((socket.observeNotificationsIfNecessary isMainAppAndActive).keptAlive
        backgroundOpenSocketDuration now, now)
  | _ => none

/-- An event does not have the desired state applied, or not while a socket that should be
open has left the open state and `state` has not. -/
def FindsSocketAlive (socket : OWSWebSocket) (event : Event) (_ : OWSWebSocket) : Prop :=
  ∀ found now, socket.noticed event = some (found, now) → found.IsAlive now

/-- **Every event settles the socket** that it finds alive. -/
theorem isSettled_handle (h : socket.InStep) (settled : socket.IsSettled)
    (pristine : socket.IsPristine)
    (alive : socket.FindsSocketAlive event (socket.handle event)) :
    (socket.handle event).IsSettled := by
  cases event with
  | readyStateDidChange readyState =>
      rw [handle]
      split
      · split
        · exact settled.congr rfl rfl rfl rfl
        · exact settled
      · exact settled
  | webSocketDidOpen number =>
      rw [handle]
      split
      · exact isSettled_of_opened state_setState
      · exact settled
  | didFailWithError number now | didClose number now =>
      rw [handle]
      split
      · exact isSettled_handleSocketFailure h
      · exact settled
  | didReceiveMessage number kind couldStart now =>
      rw [handle]
      split
      · next hcurrent =>
          cases kind with
          | other => exact settled
          | envelope =>
              have hkept := alive _ now (by simp only [noticed, if_pos hcurrent]; rfl)
              exact (isSettled_requestSocketAlive h hkept).congr rfl rfl rfl rfl
          | otherRequest =>
              have hkept := alive _ now (by simp only [noticed, if_pos hcurrent]; rfl)
              exact (isSettled_requestSocketAlive h hkept).sendWebSocketMessageAcknowledgement
                h.requestSocketAlive
          | response => exact settled.congr rfl rfl rfl rfl
      · exact settled
  | envelopeProcessed now =>
      rw [handle]
      split
      · exact IsSettled.sendWebSocketMessageAcknowledgement (h.of_eq Iff.rfl rfl rfl rfl)
          (settled.congr rfl rfl rfl rfl)
      · exact settled
  | responseProcessed couldStart now =>
      rw [handle]
      split
      · next hresponses =>
          exact isSettled_requestSocketAlive (h.of_eq Iff.rfl rfl rfl rfl)
            (alive _ now (by rw [noticed, if_pos hresponses]))
      · exact settled
  | heartbeatTimerFired now =>
      rw [handle]
      split
      · exact settled.webSocketHeartBeat h
      · exact settled
  | reconnectTimerFired now | backgroundKeepAliveTimerFired now =>
      rw [handle]
      split
      · next hset =>
          exact isSettled_applyDesiredSocketState h (alive _ now (by rw [noticed, if_pos hset]))
      · exact settled
  | backgroundTaskExpired now =>
      rw [handle]
      split
      · next hrunning =>
          have hreset := alive _ now (by rw [noticed, if_pos hrunning])
          exact isSettled_applyDesiredSocketState
            (InStep.clearBackgroundState (h.of_eq Iff.rfl rfl rfl rfl)) hreset
      · exact settled
  | applicationDidBecomeActive now | applicationWillResignActive now =>
      rw [handle]
      split
      · next hobserved =>
          exact isSettled_applyDesiredSocketState (h.of_eq Iff.rfl rfl rfl rfl)
            (alive _ now (by rw [noticed, if_pos hobserved]))
      · exact settled
  | registrationStateDidChange isRegistered now
  | isCensorshipCircumventionActiveDidChange isActive now =>
      rw [handle]
      split
      · next hobserved =>
          exact isSettled_applyDesiredSocketState (h.of_eq Iff.rfl rfl rfl rfl)
            (alive _ now (by rw [noticed, if_pos hobserved]))
      · next hunobserved =>
          -- Nobody observes the change, and before that nobody wants a socket.
          obtain ⟨-, -, hdate, -, -, hactive, -⟩ := pristine (by simpa using hunobserved)
          intro _ _ hwanted
          simp [IsWanted, hdate, hactive] at hwanted
  | deviceListUpdateModifiedDeviceList now =>
      rw [handle]
      split
      · exact isSettled_cycleSocket h
      · exact settled
  | requestSocketOpen isMainAppAndActive couldStart now =>
      refine isSettled_requestSocketAlive ?_ (alive _ now rfl)
      rw [observeNotificationsIfNecessary]
      split
      · exact h
      · exact h.of_eq Iff.rfl rfl rfl rfl
  | cycleSocket now => exact isSettled_cycleSocket h

/-! ### Before the notifications are observed -/

/-- Circumstances that are the same. -/
theorem hasObservedNotifications_of_eq {other : OWSWebSocket}
    (circumstances : other.circumstances = socket.circumstances)
    (h : socket.hasObservedNotifications = true) : other.hasObservedNotifications = true :=
  (congrArg Circumstances.hasObservedNotifications circumstances).trans h

@[simp] theorem hasObservedNotifications_circumstances :
    socket.circumstances.hasObservedNotifications = socket.hasObservedNotifications := rfl

theorem hasObservedNotifications_handle (h : socket.hasObservedNotifications = true) :
    (socket.handle event).hasObservedNotifications = true := by
  rw [← hasObservedNotifications_circumstances]
  -- No event takes the observation back: what the handlers call leaves the circumstances alone.
  cases event with
  | readyStateDidChange readyState =>
      rw [handle]
      split
      · split <;> exact h
      · exact h
  | didReceiveMessage number kind couldStart now =>
      rw [handle]
      split
      · cases kind with
        | envelope => exact hasObservedNotifications_of_eq circumstances_requestSocketAlive h
        | otherRequest => simp [didReceiveMessage, h]
        | other | response => exact h
      · exact h
  | requestSocketOpen isMainAppAndActive couldStart now =>
      simp [handle, observeNotificationsIfNecessary, h]
  | cycleSocket now => simp [handle, h]
  | _ =>
      rw [handle]
      split <;> simp [h]

theorem closeWebSocket_of_closed (h : socket.state = .closed) : socket.closeWebSocket = socket := by
  rw [closeWebSocket, setState.eq_def, if_pos h]

theorem sendWebSocketMessageAcknowledgement_of_none (h : socket.websocket = none) :
    socket.sendWebSocketMessageAcknowledgement now = socket := by
  rw [sendWebSocketMessageAcknowledgement, if_neg]
  simp [failsToWrite, h]

/-- **A socket stays pristine** until the notifications are observed. -/
theorem IsPristine.handle (h : socket.InStep) (pristine : socket.IsPristine) :
    (socket.handle event).IsPristine := by
  intro hunobserved
  cases hobserved : socket.hasObservedNotifications with
  | true =>
      rw [hasObservedNotifications_handle hobserved] at hunobserved
      cases hunobserved
  | false =>
      have hpristine := pristine hobserved
      obtain ⟨hclosed, hreconnect, hdate, htimer, htask, hactive, hresponses⟩ := hpristine
      have hnone : socket.websocket = none := h.websocket.mpr hclosed
      have hobsolete (number : ℕ) : ¬socket.IsCurrent number := by simp [IsCurrent, hnone]
      have hheartbeat : socket.heartbeatTimer = false := by
        have hnot : ¬socket.heartbeatTimer = true := by simp [h.heartbeatTimer, hclosed]
        simpa using hnot
      cases event with
      | readyStateDidChange readyState =>
          rw [OWSWebSocket.handle, hnone]
          exact pristine hobserved
      | webSocketDidOpen number | didFailWithError number now | didClose number now
      | didReceiveMessage number kind couldStart now | responseProcessed couldStart now
      | heartbeatTimerFired now | reconnectTimerFired now | backgroundKeepAliveTimerFired now
      | backgroundTaskExpired now =>
          -- The socket is not the current one, or there is nothing that could fire.
          rw [OWSWebSocket.handle,
            if_neg (by simp [hobsolete, hresponses, hheartbeat, hreconnect, htimer, htask])]
          exact pristine hobserved
      | envelopeProcessed now =>
          rw [OWSWebSocket.handle]
          split
          · have hsame := @sendWebSocketMessageAcknowledgement_of_none
              { socket with envelopes := socket.envelopes - 1 } now hnone
            rw [hsame]
            exact pristine hobserved
          · exact pristine hobserved
      | applicationDidBecomeActive now | applicationWillResignActive now
      | registrationStateDidChange isRegistered now
      | isCensorshipCircumventionActiveDidChange isActive now
      | deviceListUpdateModifiedDeviceList now =>
          rw [OWSWebSocket.handle, hobserved]
          exact pristine hobserved
      | requestSocketOpen isMainAppAndActive couldStart now =>
          rw [OWSWebSocket.handle, hasObservedNotifications_of_eq circumstances_requestSocketAlive]
            at hunobserved
          · cases hunobserved
          · rw [observeNotificationsIfNecessary, hobserved]
            rfl
      | cycleSocket now =>
          -- Nothing keeps a pristine socket open, so to cycle it closes it again.
          have hunwanted : ¬socket.shouldSocketBeOpen now = true := by
            intro hshould
            have hwanted := isWanted_of_shouldSocketBeOpen hshould
            simp [IsWanted, hdate, hactive] at hwanted
          have hreset : socket.resetBackgroundState.clearReconnect.state = .closed := hclosed
          rw [OWSWebSocket.handle, OWSWebSocket.cycleSocket, closeWebSocket_of_closed hclosed,
            applyDesiredSocketState, if_neg hunwanted, clearBackgroundState, htask,
            if_neg (by simp), closeWebSocket_of_closed hreset]
          exact ⟨hclosed, rfl, rfl, rfl, rfl, hactive, hresponses⟩

/-! ## Every run -/

variable {socket' : OWSWebSocket} {events : List Event}

/-- What every run keeps whose events find the socket alive. -/
structure IsAligned (socket : OWSWebSocket) : Prop where
  inStep : socket.InStep
  settled : socket.IsSettled
  pristine : socket.IsPristine

/-- A socket that has just been made. -/
def IsInitial (socket : OWSWebSocket) : Prop :=
  ∃ webSocketType isMainApp isRegistered isCensorshipCircumventionActive,
    socket = initial webSocketType isMainApp isRegistered isCensorshipCircumventionActive

theorem IsInitial.isAligned (h : socket.IsInitial) : socket.IsAligned := by
  obtain ⟨webSocketType, isMainApp, isRegistered, isCensorshipCircumventionActive, rfl⟩ := h
  refine ⟨⟨by simp [initial], by simp [initial], by simp [initial]⟩, ?_, fun _ => ?_⟩
  · intro _ _ hwanted
    simp [IsWanted, initial] at hwanted
  · exact ⟨rfl, rfl, rfl, rfl, rfl, rfl, rfl⟩

theorem inStep_of_run (isInitial : socket.IsInitial)
    (run : LabelledRun Step socket events socket') : socket'.InStep := by
  refine @LabelledRun.invariant _ _ _ _ _ _ (fun _ => InStep) run isInitial.isAligned.inStep ?_
  rintro _ before event _ h rfl
  exact h.handle event

theorem isAligned_of_run (isInitial : socket.IsInitial)
    (run : LabelledRun Step socket events socket')
    (alive : LabelledRun.EveryStep Step socket events FindsSocketAlive) : socket'.IsAligned := by
  refine @LabelledRun.invariant _ _ _ _ _ _ (fun _ => IsAligned) (run.restrict alive)
    isInitial.isAligned ?_
  rintro _ before event _ h ⟨rfl, halive⟩
  exact ⟨h.inStep.handle event, isSettled_handle h.inStep h.settled h.pristine halive,
    h.pristine.handle h.inStep⟩

def IsObsolete (socket : OWSWebSocket) : Event → Prop
  | .webSocketDidOpen number => ¬socket.IsCurrent number
  | .didFailWithError number _ => ¬socket.IsCurrent number
  | .didClose number _ => ¬socket.IsCurrent number
  | .didReceiveMessage number _ _ _ => ¬socket.IsCurrent number
  | _ => False

theorem handle_of_isObsolete (h : socket.IsObsolete event) : socket.handle event = socket := by
  cases event with
  | webSocketDidOpen number => exact if_neg h
  | didFailWithError number now => exact if_neg h
  | didClose number now => exact if_neg h
  | didReceiveMessage number kind couldStart now => exact if_neg h
  | _ => cases h

/-- **The socket stays aligned**: after every run it is in step with the state, and obsolete
sockets change nothing; and it is being reconnected if it should be open and is not, unless
an event found it dead. -/
theorem socket_stays_aligned (isInitial : socket.IsInitial)
    (run : LabelledRun Step socket events socket') :
    socket'.InStep ∧ (∀ event, socket'.IsObsolete event → socket'.handle event = socket') ∧
      (LabelledRun.EveryStep Step socket events FindsSocketAlive → socket'.IsReconnecting) :=
  ⟨inStep_of_run isInitial run, fun _ => handle_of_isObsolete,
    fun alive => (isAligned_of_run isInitial run alive).settled.isReconnecting⟩

theorem run_foldl (events : List Event) :
    LabelledRun Step socket events (events.foldl handle socket) := by
  induction events generalizing socket with
  | nil => exact .refl
  | cons event events ih => exact (LabelledRun.single rfl).trans ih

/-! ### A socket that is opened -/

def registeredSocket : OWSWebSocket := initial .default true true false

def openingEvents : List Event := [.requestSocketOpen true true 0]

/-- The socket opens, a message keeps it alive, and it closes. -/
def lostEvents : List Event :=
  openingEvents ++ [.readyStateDidChange .opened, .webSocketDidOpen 0,
    .didReceiveMessage 0 .envelope true 500, .readyStateDidChange .closed, .didClose 0 1000]

theorem lost_socket_reconnecting :
    (lostEvents.foldl handle registeredSocket).reconnectTimer = true := by
  have haligned := @socket_stays_aligned _ _ lostEvents ⟨.default, true, true, false, rfl⟩
    (@run_foldl registeredSocket lostEvents)
  have alive : LabelledRun.Along handle (fun socket event => ∀ noticed ∈ socket.noticed event,
      noticed.1.shouldSocketBeOpen noticed.2 = true → noticed.1.state = .opened →
        noticed.1.failsToWrite = false) registeredSocket lostEvents := by decide
  refine haligned.2.2 ?_ 1000 (by decide) (by decide)
  exact (LabelledRun.everyStep_of_along (fun _ _ _ => id) alive).mono
    fun _ _ _ _ halive _ _ hnoticed => halive _ hnoticed

/-- The socket opens and closes again, and before its delegate hears of it the app becomes
active. -/
def deadEvents : List Event :=
  openingEvents ++ [.readyStateDidChange .opened, .webSocketDidOpen 0,
    .readyStateDidChange .closed, .applicationDidBecomeActive 1000]

/-- **A socket found dead is not reconnected**: it is replaced by one that is connecting, and
no reconnect timer runs. -/
theorem dead_socket_not_reconnecting :
    LabelledRun Step registeredSocket deadEvents (deadEvents.foldl handle registeredSocket) ∧
      (deadEvents.foldl handle registeredSocket).shouldSocketBeOpen 1000 = true ∧
        (deadEvents.foldl handle registeredSocket).state = .connecting ∧
          (deadEvents.foldl handle registeredSocket).reconnectTimer = false :=
  ⟨run_foldl deadEvents, by decide, by decide, by decide⟩

end OWSWebSocket

end ObjcSwiftLearning.SignalServiceKit
