import Mathlib.Logic.Function.Basic
import ObjcSwiftLearning.AxolotlKit.Foundation
import ObjcSwiftLearning.Library.LabelledRun
import ObjcSwiftLearning.Library.OneShot

/-!
# Requests over the websocket

A request is registered in `socketMessageMap` before anything is done about it, and the map
is emptied whenever the socket leaves the open state.  In between the request is encoded, the
socket asked whether it takes requests, the message written and a timeout set, all by the
caller; responses come in on other threads, timeouts fire on yet others, and only the state
of the socket is changed on the main thread.  Each line of the code that reads or writes what
the threads share is a step of its own.

* `SocketRequests.Step` — the threads, interleaved.
* `SocketRequests.Accounted` — where a request is that has not completed: in the hands of a
  thread, or in the map with something outstanding that completes it.
* `SocketRequests.requests_complete_once` — each block is called once at most, and rightly, and
  no request is left behind.
-/

namespace ObjcSwiftLearning.SignalServiceKit

open AxolotlKit

/-! ## Requests and responses -/

/-- `TSRequest`, as far as it is sent. -/
structure TSRequest (Parameters : Type) where
  httpMethod : String
  /-- That of the URL. -/
  path : String
  parameters : Option Parameters
  allHTTPHeaderFields : List (String × String)

/-- The request on the wire, with the fields that have been set. -/
structure WebSocketProtos.WebSocketRequestMessage where
  verb : Option String := none
  path : Option String := none
  body : Option NSData := none
  headers : List String := []
  requestID : Option UInt64 := none

/-- A request that has what is required of it. -/
structure WebSocketProtoWebSocketRequestMessage where
  proto : WebSocketProtos.WebSocketRequestMessage
  verb : String
  path : String
  requestID : UInt64

namespace WebSocketProtoWebSocketRequestMessage

/-- `builderWithVerb:path:requestID:`; a builder is the message it has so far. -/
def builder (verb path : String) (requestID : UInt64) : WebSocketProtos.WebSocketRequestMessage :=
  { verb := some verb, path := some path, requestID := some requestID }

def parseProto (proto : WebSocketProtos.WebSocketRequestMessage) :
    Option WebSocketProtoWebSocketRequestMessage := do
  let verb ← proto.verb
  let path ← proto.path
  let requestID ← proto.requestID
  return { proto, verb, path, requestID }

end WebSocketProtoWebSocketRequestMessage

inductive WebSocketProtoWebSocketMessageType where
  | unknown
  | request
  | response

/-- The message around a request. -/
structure WebSocketProtos.WebSocketMessage where
  type : Option WebSocketProtoWebSocketMessageType := none
  request : Option WebSocketProtos.WebSocketRequestMessage := none

/-- `parseProto` of `WebSocketProtoWebSocketMessage`, by whether it throws. -/
def WebSocketProtos.WebSocketMessage.Parses (proto : WebSocketProtos.WebSocketMessage) : Bool :=
  proto.type.isSome &&
    proto.request.all fun request =>
      (WebSocketProtoWebSocketRequestMessage.parseProto request).isSome

structure WebSocketProtoWebSocketResponseMessage where
  requestID : UInt64
  status : UInt32
  body : Option NSData

/-- What a request is encoded and a response decoded with; each may fail. -/
structure SocketCoding (Parameters JSON : Type) where
  dataWithJSONObject : Parameters → Option NSData
  JSONObjectWithData : NSData → Option JSON
  /-- That of the protobuf library. -/
  serializedData : WebSocketProtos.WebSocketMessage → Option NSData

/-- What becomes of a request before it is sent. -/
inductive RequestEncoding where
  | couldNotSerializeJSON
  | couldNotBuild
  | couldNotSerialize
  | encoded (messageData : NSData)

inductive SocketError where
  | requestTimedOut
  | requestFailed
  | responseFailed

/-- The block that is called, with what it is called with. -/
inductive SocketMessageOutcome (JSON : Type) where
  | success (responseObject : Option JSON)
  | failure (statusCode : UInt32) (responseData : Option NSData) (error : SocketError)

namespace SocketCoding

variable {Parameters JSON : Type} (coding : SocketCoding Parameters JSON)

/-- The builder that `makeRequest:` has filled in. -/
def requestBuilder (requestId : UInt64) (request : TSRequest Parameters)
    (jsonData : Option NSData) : WebSocketProtos.WebSocketRequestMessage :=
  { WebSocketProtoWebSocketRequestMessage.builder request.httpMethod ("/" ++ request.path)
      requestId with
    body := jsonData
    headers :=
      (if jsonData.isSome then ["content-type:application/json"] else []) ++
        request.allHTTPHeaderFields.map fun header => header.1 ++ ":" ++ header.2 }

/-- `buildSerializedDataAndReturnError:` of the builder of the message around a request. -/
def buildSerializedData (requestProto : WebSocketProtoWebSocketRequestMessage) : Option NSData :=
  let proto : WebSocketProtos.WebSocketMessage :=
    { type := some .request, request := some requestProto.proto }
  if proto.Parses then coding.serializedData proto else none

/-- `makeRequest:` once the parameters are data. -/
def encodeBuilt (requestId : UInt64) (request : TSRequest Parameters)
    (jsonData : Option NSData) : RequestEncoding :=
  match WebSocketProtoWebSocketRequestMessage.parseProto
      (requestBuilder requestId request jsonData) with
  | none => .couldNotBuild
  | some requestProto =>
      match coding.buildSerializedData requestProto with
      | none => .couldNotSerialize
      | some messageData => .encoded messageData

/-- `makeRequest:` up to where it looks at the socket. -/
def encode (requestId : UInt64) (request : TSRequest Parameters) : RequestEncoding :=
  match request.parameters with
  | none => coding.encodeBuilt requestId request none
  | some parameters =>
      match coding.dataWithJSONObject parameters with
      | none => .couldNotSerializeJSON
      | some jsonData => coding.encodeBuilt requestId request (some jsonData)

/-- A response is valid that has no body, or one in JSON. -/
def HasValidResponse (message : WebSocketProtoWebSocketResponseMessage) : Prop :=
  ∀ body, message.body = some body → (coding.JSONObjectWithData body).isSome = true

/-- `processWebSocketResponseMessageAsync:`, as far as it decides between the blocks. -/
def outcome (message : WebSocketProtoWebSocketResponseMessage) : SocketMessageOutcome JSON :=
  let hasSuccessStatus := 200 ≤ message.status ∧ message.status ≤ 299
  let failed := SocketMessageOutcome.failure message.status message.body .responseFailed
  match message.body with
  | none => if hasSuccessStatus then .success none else failed
  | some responseData =>
      match coding.JSONObjectWithData responseData with
      | none => failed
      | some responseJson => if hasSuccessStatus then .success (some responseJson) else failed

end SocketCoding

/-! ## The threads -/

inductive OWSWebSocketState where
  | closed
  | connecting
  | opened
deriving DecidableEq

/-- How far a call of `makeRequest:` is. -/
inductive MakeRequestStage (Parameters : Type) where
  | registered (request : TSRequest Parameters)
  /-- It is encoded; `canMakeRequests` is read next. -/
  | encoded (messageData : NSData)
  /-- The socket takes requests; the message is written next. -/
  | sending (messageData : NSData)
  /-- The message is written; the timeout is set next. -/
  | sent

/-- What the main thread is about to do. -/
inductive SocketMainStage where
  /-- `failAllPendingSocketMessages` is called. -/
  | failAllPending
  /-- It has emptied the map, and has yet to fail these. -/
  | failing (requestIds : List UInt64)

/-- `OWSWebSocket`, as far as it makes requests.  A request id stands for the message that was
made with it. -/
structure SocketRequests (Parameters JSON : Type) where
  state : OWSWebSocketState
  canMakeRequests : Bool
  socketMessageMap : List UInt64
  /-- `hasCompleted` of the messages, and the calls of their blocks. -/
  socketMessages : OneShot UInt64 (SocketMessageOutcome JSON)
  /-- The ids that were drawn so far. -/
  requestIds : List UInt64
  /-- The calls of `makeRequest:` that are under way. -/
  makeRequests : UInt64 → Option (MakeRequestStage Parameters)
  timeouts : List UInt64
  /-- The responses that have been given their message, and have yet to complete it. -/
  responding : List WebSocketProtoWebSocketResponseMessage
  main : SocketMainStage

namespace SocketRequests

variable {Parameters JSON : Type} (socket : SocketRequests Parameters JSON)

def initial : SocketRequests Parameters JSON where
  state := .closed
  canMakeRequests := false
  socketMessageMap := []
  socketMessages := .unfired
  requestIds := []
  makeRequests := fun _ => none
  timeouts := []
  responding := []
  main := .failing []

/-- `didFailWithStatusCode:responseData:error:` and `didSucceedWithResponseObject:`. -/
def complete (requestId : UInt64) (outcome : SocketMessageOutcome JSON) :
    SocketRequests Parameters JSON :=
  { socket with socketMessages := socket.socketMessages.complete requestId outcome }

def didFailBeforeSending (requestId : UInt64) : SocketRequests Parameters JSON :=
  socket.complete requestId (.failure 0 none .requestFailed)

/-- A call of `makeRequest:` gets on, or returns. -/
def proceed (requestId : UInt64) (stage : Option (MakeRequestStage Parameters)) :
    SocketRequests Parameters JSON :=
  { socket with makeRequests := Function.update socket.makeRequests requestId stage }

def encodeRequest (requestId : UInt64) : RequestEncoding → SocketRequests Parameters JSON
  | .couldNotSerializeJSON => (socket.didFailBeforeSending requestId).proceed requestId none
  | .couldNotBuild => socket.proceed requestId none
  | .couldNotSerialize => (socket.didFailBeforeSending requestId).proceed requestId none
  | .encoded messageData => socket.proceed requestId (some (.encoded messageData))

def checkCanMakeRequests (requestId : UInt64) (messageData : NSData) :
    SocketRequests Parameters JSON :=
  if !socket.canMakeRequests then (socket.didFailBeforeSending requestId).proceed requestId none
  else socket.proceed requestId (some (.sending messageData))

/-- It has written the message, or could not. -/
def sendData (requestId : UInt64) (wasScheduled : Bool) : SocketRequests Parameters JSON :=
  if !wasScheduled then (socket.didFailBeforeSending requestId).proceed requestId none
  else socket.proceed requestId (some .sent)

/-- A message that nothing refers to has been deallocated. -/
def IsAlive (requestId : UInt64) : Prop :=
  requestId ∈ socket.socketMessageMap ∨ (socket.makeRequests requestId).isSome = true ∨
    (∃ message ∈ socket.responding, message.requestID = requestId) ∨
      ∃ requestIds, socket.main = .failing requestIds ∧ requestId ∈ requestIds

/-- `setState:`, up to where the pending requests are failed. -/
def setState (state : OWSWebSocketState) : SocketRequests Parameters JSON :=
  if socket.state = state then socket
  else
    { socket with
      state
      canMakeRequests := state = .opened
      main := if state = .opened then socket.main else .failAllPending }

/-! ## The steps -/

/-- What happens. -/
inductive Event (Parameters : Type) where
  | makeRequest (requestId : UInt64) (request : TSRequest Parameters)
  | requestEncoded (requestId : UInt64)
  | canMakeRequestsChecked (requestId : UInt64)
  | dataSent (requestId : UInt64) (wasScheduled : Bool)
  | timeoutSet (requestId : UInt64)
  | timeoutFired (requestId : UInt64)
  | responseReceived (message : WebSocketProtoWebSocketResponseMessage)
  | responseCompleted (message : WebSocketProtoWebSocketResponseMessage)
  | stateSet (state : OWSWebSocketState)
  | pendingTaken
  | pendingFailed (requestId : UInt64)

/-- One step.  Request ids are distinct. -/
inductive Step (coding : SocketCoding Parameters JSON) : SocketRequests Parameters JSON →
    Event Parameters → SocketRequests Parameters JSON → Prop
  | makeRequest {socket : SocketRequests Parameters JSON} {requestId : UInt64}
      (request : TSRequest Parameters) (fresh : requestId ∉ socket.requestIds) :
      Step coding socket (.makeRequest requestId request)
        { socket with
          socketMessageMap := socket.socketMessageMap ++ [requestId]
          requestIds := socket.requestIds ++ [requestId]
          makeRequests :=
            Function.update socket.makeRequests requestId (some (.registered request)) }
  | requestEncoded {socket : SocketRequests Parameters JSON} {requestId : UInt64}
      {request : TSRequest Parameters}
      (stage : socket.makeRequests requestId = some (.registered request)) :
      Step coding socket (.requestEncoded requestId)
        (socket.encodeRequest requestId (coding.encode requestId request))
  | canMakeRequestsChecked {socket : SocketRequests Parameters JSON} {requestId : UInt64}
      {messageData : NSData}
      (stage : socket.makeRequests requestId = some (.encoded messageData)) :
      Step coding socket (.canMakeRequestsChecked requestId)
        (socket.checkCanMakeRequests requestId messageData)
  | dataSent {socket : SocketRequests Parameters JSON} {requestId : UInt64}
      {messageData : NSData} (wasScheduled : Bool)
      (stage : socket.makeRequests requestId = some (.sending messageData)) :
      Step coding socket (.dataSent requestId wasScheduled)
        (socket.sendData requestId wasScheduled)
  | timeoutSet {socket : SocketRequests Parameters JSON} {requestId : UInt64}
      (stage : socket.makeRequests requestId = some .sent) :
      Step coding socket (.timeoutSet requestId)
        { socket.proceed requestId none with timeouts := socket.timeouts ++ [requestId] }
  | timeoutFired {socket : SocketRequests Parameters JSON} {requestId : UInt64}
      (pending : requestId ∈ socket.timeouts) (alive : socket.IsAlive requestId) :
      Step coding socket (.timeoutFired requestId)
        { socket.complete requestId (.failure 0 none .requestTimedOut) with
          timeouts := socket.timeouts.erase requestId }
  | timeoutFiredInVain {socket : SocketRequests Parameters JSON} {requestId : UInt64}
      (pending : requestId ∈ socket.timeouts) (deallocated : ¬socket.IsAlive requestId) :
      Step coding socket (.timeoutFired requestId)
        { socket with timeouts := socket.timeouts.erase requestId }
  | responseReceived {socket : SocketRequests Parameters JSON}
      {message : WebSocketProtoWebSocketResponseMessage}
      (known : message.requestID ∈ socket.socketMessageMap) :
      Step coding socket (.responseReceived message)
        { socket with
          socketMessageMap := socket.socketMessageMap.filter (· ≠ message.requestID)
          responding := socket.responding ++ [message] }
  | responseToUnknownRequest {socket : SocketRequests Parameters JSON}
      {message : WebSocketProtoWebSocketResponseMessage}
      (unknown : message.requestID ∉ socket.socketMessageMap) :
      Step coding socket (.responseReceived message) socket
  | responseCompleted {socket : SocketRequests Parameters JSON}
      {message : WebSocketProtoWebSocketResponseMessage}
      {earlier later : List WebSocketProtoWebSocketResponseMessage}
      (responding : socket.responding = earlier ++ message :: later) :
      Step coding socket (.responseCompleted message)
        { socket.complete message.requestID (coding.outcome message) with
          responding := earlier ++ later }
  | stateSet {socket : SocketRequests Parameters JSON} (state : OWSWebSocketState)
      (idle : socket.main = .failing []) :
      Step coding socket (.stateSet state) (socket.setState state)
  | pendingTaken {socket : SocketRequests Parameters JSON}
      (stage : socket.main = .failAllPending) :
      Step coding socket .pendingTaken
        { socket with
          socketMessageMap := []
          main := .failing socket.socketMessageMap }
  | pendingFailed {socket : SocketRequests Parameters JSON} {requestId : UInt64}
      {requestIds : List UInt64} (stage : socket.main = .failing (requestId :: requestIds)) :
      Step coding socket (.pendingFailed requestId)
        { socket.didFailBeforeSending requestId with main := .failing requestIds }

/-! ## What decides between the blocks -/

end SocketRequests

namespace SocketCoding

variable {Parameters JSON : Type} {coding : SocketCoding Parameters JSON}

/-- The builder has set all that is required, so that the request builds. -/
theorem encodeBuilt_ne (requestId : UInt64) (request : TSRequest Parameters)
    (jsonData : Option NSData) :
    coding.encodeBuilt requestId request jsonData ≠ .couldNotBuild := by
  rw [encodeBuilt, WebSocketProtoWebSocketRequestMessage.parseProto, requestBuilder,
    WebSocketProtoWebSocketRequestMessage.builder]
  dsimp only [bind, Option.bind, pure]
  split <;> nofun

theorem encode_ne (requestId : UInt64) (request : TSRequest Parameters) :
    coding.encode requestId request ≠ .couldNotBuild := by
  rw [encode]
  split
  · exact encodeBuilt_ne _ _ _
  · split
    · nofun
    · exact encodeBuilt_ne _ _ _

theorem outcome_eq_success {message : WebSocketProtoWebSocketResponseMessage}
    {responseObject : Option JSON} (h : coding.outcome message = .success responseObject) :
    (200 ≤ message.status ∧ message.status ≤ 299) ∧ coding.HasValidResponse message := by
  rw [outcome] at h
  split at h
  · next hbody =>
      split at h
      · next hstatus => exact ⟨hstatus, fun body hsome => by rw [hbody] at hsome; cases hsome⟩
      · cases h
  · next responseData hbody =>
      split at h
      · cases h
      · next responseJson hjson =>
          split at h
          · next hstatus =>
              refine ⟨hstatus, fun body hsome => ?_⟩
              rw [hbody] at hsome
              cases hsome
              rw [hjson]
              rfl
          · cases h

end SocketCoding

namespace SocketRequests

variable {Parameters JSON : Type} {coding : SocketCoding Parameters JSON}
  {socket socket' : SocketRequests Parameters JSON} {requestId other : UInt64}
  {event : Event Parameters} {events : List (Event Parameters)}

/-! ## Where a request is -/

/-- A thread has the message, and completes it next. -/
def InHand (socket : SocketRequests Parameters JSON) (requestId : UInt64) : Prop :=
  (∃ message ∈ socket.responding, message.requestID = requestId) ∨
    ∃ requestIds, socket.main = .failing requestIds ∧ requestId ∈ requestIds

/-- Its caller has yet to look at `canMakeRequests`. -/
def IsUnchecked (socket : SocketRequests Parameters JSON) (requestId : UInt64) : Prop :=
  (∃ request, socket.makeRequests requestId = some (.registered request)) ∨
    ∃ messageData, socket.makeRequests requestId = some (.encoded messageData)

/-- Its caller has found that the socket takes requests, and has yet to set the timeout. -/
def IsChecked (socket : SocketRequests Parameters JSON) (requestId : UInt64) : Prop :=
  (∃ messageData, socket.makeRequests requestId = some (.sending messageData)) ∨
    socket.makeRequests requestId = some .sent

theorem IsChecked.not_unchecked (h : socket.IsChecked requestId) :
    ¬socket.IsUnchecked requestId := by
  rintro (⟨_, hunchecked⟩ | ⟨_, hunchecked⟩) <;>
    rcases h with ⟨_, hchecked⟩ | hchecked <;>
      rw [hunchecked] at hchecked <;> cases hchecked

/-- It is in the map.  Either its caller will look at `canMakeRequests`; or the caller has,
and then the map is still to be emptied, and there is a timeout or will be one. -/
def IsAwaited (socket : SocketRequests Parameters JSON) (requestId : UInt64) : Prop :=
  requestId ∈ socket.socketMessageMap ∧
    (socket.IsUnchecked requestId ∨
      ((socket.canMakeRequests = true ∨ socket.main = .failAllPending) ∧
        (requestId ∈ socket.timeouts ∨ socket.IsChecked requestId)))

/-- **Nothing is lost**: a request has completed, or a thread completes it next, or something
is outstanding that does. -/
def Accounted (socket : SocketRequests Parameters JSON) (requestId : UInt64) : Prop :=
  requestId ∈ socket.socketMessages.hasCompleted ∨ socket.InHand requestId ∨
    socket.IsAwaited requestId

theorem Accounted.completed_or_alive (h : socket.Accounted requestId) :
    requestId ∈ socket.socketMessages.hasCompleted ∨ socket.IsAlive requestId := by
  rcases h with hcompleted | (hresponding | hfailing) | hawaited
  · exact .inl hcompleted
  · exact .inr (.inr (.inr (.inl hresponding)))
  · exact .inr (.inr (.inr (.inr hfailing)))
  · exact .inr (.inl hawaited.1)

/-- A step that leaves alone what a request depends on. -/
theorem Accounted.of_frame (h : socket.Accounted other)
    (completed : other ∈ socket.socketMessages.hasCompleted →
      other ∈ socket'.socketMessages.hasCompleted)
    (responding : ∀ message ∈ socket.responding, message.requestID = other →
      message ∈ socket'.responding)
    (main : socket'.main = socket.main)
    (map : other ∈ socket.socketMessageMap → other ∈ socket'.socketMessageMap)
    (stage : socket'.makeRequests other = socket.makeRequests other)
    (can : socket'.canMakeRequests = socket.canMakeRequests)
    (timeouts : other ∈ socket.timeouts → other ∈ socket'.timeouts) : socket'.Accounted other := by
  rcases h with hcompleted | (⟨message, hmem, hid⟩ | hfailing) | ⟨hmap, hwaits⟩
  · exact .inl (completed hcompleted)
  · exact .inr (.inl (.inl ⟨message, responding message hmem hid, hid⟩))
  · rw [← main] at hfailing
    exact .inr (.inl (.inr hfailing))
  · refine .inr (.inr ⟨map hmap, ?_⟩)
    rw [IsUnchecked, IsChecked, stage, can, main]
    exact hwaits.imp_right (And.imp_right (Or.imp_left timeouts))

/-- Another call of `makeRequest:` gets on. -/
theorem Accounted.proceed (h : socket.Accounted other) (hne : other ≠ requestId)
    (stage : Option (MakeRequestStage Parameters)) :
    (socket.proceed requestId stage).Accounted other :=
  h.of_frame id (fun _ hmem _ => hmem) rfl id (Function.update_of_ne hne ..) rfl id

theorem Accounted.complete (h : socket.Accounted other) (outcome : SocketMessageOutcome JSON) :
    (socket.complete requestId outcome).Accounted other :=
  h.of_frame (fun hcompleted => OneShot.mem_hasCompleted_complete.mpr (.inr hcompleted))
    (fun _ hmem _ => hmem) rfl id rfl rfl id

/-- A call of `makeRequest:` that fails its request and returns. -/
theorem Accounted.didFailBeforeSending (h : socket.Accounted other) :
    ((socket.didFailBeforeSending requestId).proceed requestId none).Accounted other := by
  by_cases hself : other = requestId
  · subst hself
    exact .inl (OneShot.mem_hasCompleted_complete.mpr (.inl rfl))
  · exact (h.complete _).proceed hself none

theorem Accounted.proceed_self (h : socket.Accounted requestId)
    {stage : Option (MakeRequestStage Parameters)}
    (waits : socket.IsAwaited requestId → (socket.proceed requestId stage).IsAwaited requestId) :
    (socket.proceed requestId stage).Accounted requestId := by
  rcases h with hcompleted | hinHand | hawaited
  · exact .inl hcompleted
  · exact .inr (.inl hinHand)
  · exact .inr (.inr (waits hawaited))

/-! ## Every step -/

/-- What every run keeps. -/
structure Orderly (coding : SocketCoding Parameters JSON) (events : List (Event Parameters))
    (socket : SocketRequests Parameters JSON) : Prop where
  sound : socket.socketMessages.Sound
  responded : ∀ message ∈ socket.responding, .responseReceived message ∈ events
  succeeded : ∀ requestId responseObject,
    (requestId, .success responseObject) ∈ socket.socketMessages.calls →
      ∃ message, .responseReceived message ∈ events ∧ message.requestID = requestId ∧
        (200 ≤ message.status ∧ message.status ≤ 299) ∧ coding.HasValidResponse message
  can : socket.canMakeRequests = true ↔ socket.state = .opened

theorem Orderly.append (h : Orderly coding events socket) :
    Orderly coding (events ++ [event]) socket where
  sound := h.sound
  responded message hmem := List.mem_append_left _ (h.responded message hmem)
  succeeded requestId responseObject hcall := by
    obtain ⟨message, hmem, hrest⟩ := h.succeeded requestId responseObject hcall
    exact ⟨message, List.mem_append_left _ hmem, hrest⟩
  can := h.can

/-- A failure completes a request. -/
theorem Orderly.fail {statusCode : UInt32} {responseData : Option NSData} {error : SocketError}
    (h : Orderly coding events socket) :
    Orderly coding events (socket.complete requestId (.failure statusCode responseData error)) where
  sound := h.sound.complete
  responded := h.responded
  succeeded requestId responseObject hcall := by
    rcases OneShot.mem_calls_complete hcall with hbefore | hnew
    · exact h.succeeded requestId responseObject hbefore
    · cases hnew
  can := h.can

theorem Orderly.respond {message : WebSocketProtoWebSocketResponseMessage}
    (h : Orderly coding events socket) (hmem : message ∈ socket.responding) :
    Orderly coding events (socket.complete message.requestID (coding.outcome message)) where
  sound := h.sound.complete
  responded := h.responded
  succeeded requestId responseObject hcall := by
    rcases OneShot.mem_calls_complete hcall with hbefore | hnew
    · exact h.succeeded requestId responseObject hbefore
    · obtain ⟨hid, houtcome⟩ := Prod.mk.inj hnew
      exact ⟨message, h.responded message hmem, hid.symm,
        SocketCoding.outcome_eq_success houtcome.symm⟩
  can := h.can

/-- A change of what neither the calls nor the responses depend on. -/
theorem Orderly.of_eq (h : Orderly coding events socket)
    (messages : socket'.socketMessages = socket.socketMessages)
    (responding : ∀ message ∈ socket'.responding, message ∈ socket.responding)
    (can : socket'.canMakeRequests = socket.canMakeRequests)
    (state : socket'.state = socket.state) : Orderly coding events socket' where
  sound := by rw [messages]; exact h.sound
  responded message hmem := h.responded message (responding message hmem)
  succeeded := by rw [messages]; exact h.succeeded
  can := by rw [can, state]; exact h.can

/-- **Each step keeps the calls right.** -/
theorem Step.orderly (step : Step coding socket event socket') (h : Orderly coding events socket) :
    Orderly coding (events ++ [event]) socket' := by
  have happended : Orderly coding (events ++ [event]) socket := h.append
  cases step with
  | makeRequest request fresh | timeoutSet stage | pendingTaken stage
  | timeoutFiredInVain pending deallocated =>
      exact happended.of_eq rfl (fun _ hmem => hmem) rfl rfl
  | requestEncoded stage =>
      cases hencode : coding.encode _ _ with
      | couldNotSerializeJSON | couldNotSerialize =>
          exact happended.fail.of_eq rfl (fun _ hmem => hmem) rfl rfl
      | couldNotBuild | encoded messageData =>
          exact happended.of_eq rfl (fun _ hmem => hmem) rfl rfl
  | canMakeRequestsChecked stage =>
      rw [checkCanMakeRequests]
      split
      · exact happended.fail.of_eq rfl (fun _ hmem => hmem) rfl rfl
      · exact happended.of_eq rfl (fun _ hmem => hmem) rfl rfl
  | dataSent wasScheduled stage =>
      rw [sendData]
      split
      · exact happended.fail.of_eq rfl (fun _ hmem => hmem) rfl rfl
      · exact happended.of_eq rfl (fun _ hmem => hmem) rfl rfl
  | timeoutFired pending alive | pendingFailed stage =>
      exact happended.fail.of_eq rfl (fun _ hmem => hmem) rfl rfl
  | @responseReceived message known =>
      refine ⟨happended.sound, fun other hmem => ?_, happended.succeeded, happended.can⟩
      rcases List.mem_append.mp hmem with hbefore | hnew
      · exact happended.responded other hbefore
      · rw [List.mem_singleton.mp hnew]
        exact List.mem_append_right _ (List.mem_singleton_self _)
  | responseToUnknownRequest unknown => exact happended
  | @responseCompleted message earlier later responding =>
      have hmem : message ∈ socket.responding := by
        rw [responding]
        exact List.mem_append_right _ (List.mem_cons_self ..)
      refine (happended.respond hmem).of_eq rfl (fun other hother => ?_) rfl rfl
      dsimp only [SocketRequests.complete]
      rw [responding]
      exact List.mem_append.mpr ((List.mem_append.mp hother).imp_right (List.mem_cons_of_mem _))
  | stateSet state idle =>
      rw [setState]
      split
      · exact happended
      · exact ⟨happended.sound, happended.responded, happended.succeeded, decide_eq_true_iff⟩

/-- What a run keeps besides. -/
structure Attended (coding : SocketCoding Parameters JSON) (events : List (Event Parameters))
    (socket : SocketRequests Parameters JSON) : Prop where
  accounted : ∀ requestId ∈ socket.requestIds, socket.Accounted requestId
  drawn : ∀ requestId, (socket.makeRequests requestId).isSome = true →
    requestId ∈ socket.requestIds
  timeouts : ∀ requestId ∈ socket.timeouts, requestId ∈ socket.requestIds
  timedOut : ∀ requestId, .timeoutFired requestId ∈ events →
    requestId ∈ socket.socketMessages.hasCompleted

/-- A call of `makeRequest:` gets on from one stage to another. -/
theorem Accounted.next (h : socket.Accounted other) {stage : MakeRequestStage Parameters}
    (waits : socket.IsAwaited requestId →
      (socket.proceed requestId (some stage)).IsAwaited requestId) :
    (socket.proceed requestId (some stage)).Accounted other := by
  by_cases hself : other = requestId
  · subst hself
    exact h.proceed_self waits
  · exact h.proceed hself _

/-- **Each step leaves each request accounted for.** -/
theorem Step.accounted (step : Step coding socket event socket')
    (h : Attended coding events socket) (hmem : other ∈ socket'.requestIds) :
    socket'.Accounted other := by
  cases step with
  | @makeRequest requestId request fresh =>
      by_cases hself : other = requestId
      · subst hself
        refine .inr (.inr ⟨List.mem_append_right _ (List.mem_singleton_self _), .inl (.inl ?_)⟩)
        exact ⟨request, Function.update_self ..⟩
      · rcases List.mem_append.mp hmem with hbefore | hnew
        · exact (h.accounted other hbefore).of_frame id (fun _ hmem _ => hmem) rfl
            (List.mem_append_left _) (Function.update_of_ne hself ..) rfl id
        · exact absurd (List.mem_singleton.mp hnew) hself
  | @requestEncoded requestId request stage =>
      cases hencode : coding.encode requestId request with
      | couldNotSerializeJSON | couldNotSerialize =>
          rw [hencode] at hmem
          exact (h.accounted other hmem).didFailBeforeSending
      | couldNotBuild => exact absurd hencode (SocketCoding.encode_ne _ _)
      | encoded messageData =>
          rw [hencode] at hmem
          refine (h.accounted other hmem).next fun hawaited => ⟨hawaited.1, .inl (.inr ?_)⟩
          exact ⟨messageData, Function.update_self ..⟩
  | @canMakeRequestsChecked requestId messageData stage =>
      rw [checkCanMakeRequests] at hmem ⊢
      split at hmem
      -- The socket is not open or does not take requests, and the request fails.
      · next hcannot =>
          rw [if_pos hcannot]
          exact (h.accounted other hmem).didFailBeforeSending
      · next hcan =>
          rw [if_neg hcan]
          have htakes : socket.canMakeRequests = true := by simpa using hcan
          refine (h.accounted other hmem).next fun hawaited =>
            ⟨hawaited.1, .inr ⟨.inl htakes, .inr (.inl ?_)⟩⟩
          exact ⟨messageData, Function.update_self ..⟩
  | @dataSent requestId messageData wasScheduled stage =>
      rw [sendData] at hmem ⊢
      split at hmem
      · next hfailed =>
          rw [if_pos hfailed]
          exact (h.accounted other hmem).didFailBeforeSending
      · next hscheduled =>
          rw [if_neg hscheduled]
          refine (h.accounted other hmem).next fun hawaited => ⟨hawaited.1, .inr ?_⟩
          rcases hawaited.2 with hunchecked | ⟨hcan, -⟩
          · exact absurd hunchecked (IsChecked.not_unchecked (.inl ⟨_, stage⟩))
          · exact ⟨hcan, .inr (.inr (Function.update_self ..))⟩
  | @timeoutSet requestId stage =>
      -- From here on it is the timeout that accounts for the request.
      by_cases hself : other = requestId
      · subst hself
        -- What waits is taken out of the map and is in hand.
        rcases h.accounted other hmem with hcompleted | hinHand | ⟨hmap, hwaits⟩
        · exact .inl hcompleted
        · exact .inr (.inl hinHand)
        · refine .inr (.inr ⟨hmap, .inr ?_⟩)
          rcases hwaits with hunchecked | ⟨hcan, -⟩
          · exact absurd hunchecked (IsChecked.not_unchecked (.inr stage))
          · exact ⟨hcan, .inl (List.mem_append_right _ (List.mem_singleton_self _))⟩
      · exact (h.accounted other hmem).of_frame id (fun _ hmem _ => hmem) rfl id
          (Function.update_of_ne hself ..) rfl (List.mem_append_left _)
  | @timeoutFired requestId pending alive =>
      by_cases hself : other = requestId
      · subst hself
        exact .inl (OneShot.mem_hasCompleted_complete.mpr (.inl rfl))
      · exact (h.accounted other hmem).of_frame
          (fun hcompleted => OneShot.mem_hasCompleted_complete.mpr (.inr hcompleted))
          (fun _ hmem _ => hmem) rfl id rfl rfl fun htimeout =>
            (List.mem_erase_of_ne hself).mpr htimeout
  | @timeoutFiredInVain requestId pending deallocated =>
      -- A timeout that finds nobody is that of a request which has completed.
      by_cases hself : other = requestId
      · subst hself
        rcases (h.accounted other hmem).completed_or_alive with hcompleted | halive
        · exact .inl hcompleted
        · exact absurd halive deallocated
      · exact (h.accounted other hmem).of_frame id (fun _ hmem _ => hmem) rfl id rfl rfl
          fun htimeout => (List.mem_erase_of_ne hself).mpr htimeout
  | @responseReceived message known =>
      by_cases hself : message.requestID = other
      · refine .inr (.inl (.inl ⟨message, ?_, hself⟩))
        exact List.mem_append_right _ (List.mem_singleton_self _)
      · exact (h.accounted other hmem).of_frame id
          (fun _ hmem _ => List.mem_append_left _ hmem) rfl
          (fun hmap => List.mem_filter.mpr ⟨hmap, by simpa using Ne.symm hself⟩) rfl rfl id
  | responseToUnknownRequest unknown => exact h.accounted other hmem
  | @responseCompleted message earlier later responding =>
      by_cases hself : other = message.requestID
      · subst hself
        exact .inl (OneShot.mem_hasCompleted_complete.mpr (.inl rfl))
      · refine (h.accounted other hmem).of_frame
          (fun hcompleted => OneShot.mem_hasCompleted_complete.mpr (.inr hcompleted))
          (fun received hreceived hid => ?_) rfl id rfl rfl id
        rw [responding] at hreceived
        rcases List.mem_append.mp hreceived with hearlier | hlater
        · exact List.mem_append_left _ hearlier
        · rcases List.mem_cons.mp hlater with rfl | hlater
          · exact absurd hid.symm hself
          · exact List.mem_append_right _ hlater
  | stateSet state idle =>
      rw [setState] at hmem ⊢
      split at hmem
      · next hsame =>
          rw [if_pos hsame]
          exact h.accounted other hmem
      -- Once the socket is closed, what waits for a response is about to be failed.
      · next hchanges =>
          rw [if_neg hchanges]
          rcases h.accounted other hmem with hcompleted | (hresponding | hfailing) |
            ⟨hmap, hunchecked | ⟨-, htimeout⟩⟩
          · exact .inl hcompleted
          · exact .inr (.inl (.inl hresponding))
          · obtain ⟨requestIds, hstage, hmemIds⟩ := hfailing
            rw [idle] at hstage
            cases hstage
            cases hmemIds
          · exact .inr (.inr ⟨hmap, .inl hunchecked⟩)
          · refine .inr (.inr ⟨hmap, .inr ⟨?_, htimeout⟩⟩)
            by_cases hopened : state = .opened
            · exact .inl (decide_eq_true hopened)
            · exact .inr (if_neg hopened)
  | pendingTaken stage =>
      rcases h.accounted other hmem with hcompleted | (hresponding | hfailing) | hawaited
      · exact .inl hcompleted
      · exact .inr (.inl (.inl hresponding))
      · obtain ⟨requestIds, hfails, -⟩ := hfailing
        rw [stage] at hfails
        cases hfails
      · exact .inr (.inl (.inr ⟨_, rfl, hawaited.1⟩))
  | @pendingFailed requestId requestIds stage =>
      by_cases hself : other = requestId
      · subst hself
        exact .inl (OneShot.mem_hasCompleted_complete.mpr (.inl rfl))
      · rcases h.accounted other hmem with hcompleted | (hresponding | hfailing) |
          ⟨hmap, hunchecked | ⟨hcan | hfails, htimeout⟩⟩
        · exact .inl (OneShot.mem_hasCompleted_complete.mpr (.inr hcompleted))
        · exact .inr (.inl (.inl hresponding))
        · obtain ⟨failing, hfails, hmemIds⟩ := hfailing
          rw [stage] at hfails
          cases hfails
          rcases List.mem_cons.mp hmemIds with rfl | hmemIds
          · exact absurd rfl hself
          · exact .inr (.inl (.inr ⟨requestIds, rfl, hmemIds⟩))
        · exact .inr (.inr ⟨hmap, .inl hunchecked⟩)
        · exact .inr (.inr ⟨hmap, .inr ⟨.inl hcan, htimeout⟩⟩)
        · rw [stage] at hfails
          cases hfails

@[simp] theorem makeRequests_proceed_self (stage : Option (MakeRequestStage Parameters)) :
    (socket.proceed requestId stage).makeRequests requestId = stage :=
  Function.update_self ..

/-- A call that gets on was under way before. -/
theorem isSome_makeRequests_proceed {before : SocketRequests Parameters JSON}
    {stage : Option (MakeRequestStage Parameters)}
    (same : before.makeRequests = socket.makeRequests)
    (under : (socket.makeRequests requestId).isSome = true)
    (h : ((before.proceed requestId stage).makeRequests other).isSome = true) :
    (socket.makeRequests other).isSome = true := by
  by_cases hself : other = requestId
  · rw [hself]
    exact under
  · rw [← same]
    exact (congrArg Option.isSome (Function.update_of_ne hself ..)).symm.trans h

/-- A call of `makeRequest:` is under way from its start on. -/
theorem Step.makeRequests (step : Step coding socket event socket')
    (h : (socket'.makeRequests other).isSome = true) :
    (socket.makeRequests other).isSome = true ∨ ∃ request, event = .makeRequest other request := by
  cases step with
  | @makeRequest requestId request fresh =>
      by_cases hself : other = requestId
      · exact .inr ⟨request, by rw [hself]⟩
      · exact .inl ((congrArg Option.isSome (Function.update_of_ne hself ..)).symm.trans h)
  | @requestEncoded requestId request stage =>
      refine .inl ?_
      cases hencode : coding.encode requestId request with
      | couldNotSerializeJSON | couldNotBuild | couldNotSerialize | encoded messageData =>
          rw [hencode] at h
          exact isSome_makeRequests_proceed rfl (Option.isSome_of_eq_some stage) h
  | @canMakeRequestsChecked requestId messageData stage =>
      refine .inl ?_
      rw [checkCanMakeRequests] at h
      split at h
      · exact isSome_makeRequests_proceed rfl (Option.isSome_of_eq_some stage) h
      · exact isSome_makeRequests_proceed rfl (Option.isSome_of_eq_some stage) h
  | @dataSent requestId messageData wasScheduled stage =>
      refine .inl ?_
      rw [sendData] at h
      split at h
      · exact isSome_makeRequests_proceed rfl (Option.isSome_of_eq_some stage) h
      · exact isSome_makeRequests_proceed rfl (Option.isSome_of_eq_some stage) h
  | @timeoutSet requestId stage =>
      exact .inl (isSome_makeRequests_proceed rfl (Option.isSome_of_eq_some stage) h)
  | stateSet state idle =>
      rw [setState] at h
      split at h <;> exact .inl h
  | _ => exact .inl h

/-- What only grows: the ids that were drawn and the requests that have completed.  A timeout
is set by the call of its request. -/
structure Grows (socket socket' : SocketRequests Parameters JSON) : Prop where
  requestIds : ∀ requestId ∈ socket.requestIds, requestId ∈ socket'.requestIds
  completed : ∀ requestId ∈ socket.socketMessages.hasCompleted,
    requestId ∈ socket'.socketMessages.hasCompleted
  timeouts : ∀ requestId ∈ socket'.timeouts, requestId ∈ socket.timeouts ∨
    (socket.makeRequests requestId).isSome = true

theorem Grows.of_eq (requestIds : socket'.requestIds = socket.requestIds)
    (messages : socket'.socketMessages = socket.socketMessages)
    (timeouts : socket'.timeouts = socket.timeouts) : socket.Grows socket' := by
  refine ⟨?_, ?_, ?_⟩
  · rw [requestIds]
    exact fun _ => id
  · rw [messages]
    exact fun _ => id
  · rw [timeouts]
    exact fun _ => .inl

/-- A request is failed on the way. -/
theorem grows_didFailBeforeSending :
    socket.Grows ((socket.didFailBeforeSending requestId).proceed other none) :=
  ⟨fun _ => id, fun _ h => OneShot.mem_hasCompleted_complete.mpr (.inr h), fun _ => .inl⟩

theorem Step.grows (step : Step coding socket event socket') : socket.Grows socket' := by
  cases step with
  | makeRequest request fresh =>
      exact ⟨fun _ => List.mem_append_left _, fun _ => id, fun _ => .inl⟩
  | @requestEncoded requestId request stage =>
      cases coding.encode requestId request with
      | couldNotSerializeJSON | couldNotSerialize => exact grows_didFailBeforeSending
      | couldNotBuild | encoded messageData => exact .of_eq rfl rfl rfl
  | canMakeRequestsChecked stage =>
      rw [checkCanMakeRequests]
      split
      · exact grows_didFailBeforeSending
      · exact .of_eq rfl rfl rfl
  | dataSent wasScheduled stage =>
      rw [sendData]
      split
      · exact grows_didFailBeforeSending
      · exact .of_eq rfl rfl rfl
  | @timeoutSet requestId stage =>
      refine ⟨fun _ => id, fun _ => id, fun other hmem => ?_⟩
      rcases List.mem_append.mp hmem with hbefore | hnew
      · exact .inl hbefore
      · rw [List.mem_singleton.mp hnew, stage]
        exact .inr rfl
  | timeoutFired pending alive =>
      exact ⟨fun _ => id, fun _ h => OneShot.mem_hasCompleted_complete.mpr (.inr h),
        fun _ h => .inl (List.mem_of_mem_erase h)⟩
  | timeoutFiredInVain pending deallocated =>
      exact ⟨fun _ => id, fun _ => id, fun _ h => .inl (List.mem_of_mem_erase h)⟩
  | responseReceived known | responseToUnknownRequest unknown | pendingTaken stage =>
      exact .of_eq rfl rfl rfl
  | responseCompleted responding | pendingFailed stage =>
      exact ⟨fun _ => id, fun _ h => OneShot.mem_hasCompleted_complete.mpr (.inr h),
        fun _ => .inl⟩
  | stateSet state idle =>
      rw [setState]
      split
      · exact .of_eq rfl rfl rfl
      · exact .of_eq rfl rfl rfl

theorem Step.completed_of_timeoutFired (step : Step coding socket (.timeoutFired requestId) socket')
    (h : Attended coding events socket) : requestId ∈ socket'.socketMessages.hasCompleted := by
  cases step with
  | timeoutFired pending alive => exact OneShot.mem_hasCompleted_complete.mpr (.inl rfl)
  | timeoutFiredInVain pending deallocated =>
      rcases (h.accounted requestId (h.timeouts requestId pending)).completed_or_alive with
        hcompleted | halive
      · exact hcompleted
      · exact absurd halive deallocated

/-- **Each step keeps the requests attended to.** -/
theorem Step.attended (step : Step coding socket event socket')
    (h : Attended coding events socket) : Attended coding (events ++ [event]) socket' where
  accounted _ hmem := step.accounted h hmem
  drawn requestId hsome := by
    rcases step.makeRequests hsome with hbefore | ⟨request, rfl⟩
    · exact step.grows.requestIds _ (h.drawn requestId hbefore)
    · cases step with
      | makeRequest request fresh => exact List.mem_append_right _ (List.mem_singleton_self _)
  timeouts requestId hmem := by
    rcases step.grows.timeouts requestId hmem with hbefore | hunder
    · exact step.grows.requestIds _ (h.timeouts requestId hbefore)
    · exact step.grows.requestIds _ (h.drawn requestId hunder)
  timedOut requestId hmem := by
    rcases List.mem_append.mp hmem with hbefore | hnew
    · exact step.grows.completed _ (h.timedOut requestId hbefore)
    · obtain rfl := List.mem_singleton.mp hnew
      exact step.completed_of_timeoutFired h

/-! ## Every run -/

theorem orderly_of_run (run : LabelledRun (Step coding) initial events socket) :
    Orderly coding events socket :=
  run.invariant
    ⟨OneShot.sound_unfired, by simp [initial], by simp [initial, OneShot.unfired],
      by simp [initial]⟩
    fun _ _ _ _ h step => step.orderly h

theorem attended_of_run (run : LabelledRun (Step coding) initial events socket) :
    Attended coding events socket :=
  run.invariant ⟨by simp [initial], by simp [initial], by simp [initial], by simp⟩
    fun _ _ _ _ h step => step.attended h

/-- A request that was made has drawn its id. -/
theorem mem_requestIds_of_run (run : LabelledRun (Step coding) initial events socket)
    {request : TSRequest Parameters} (made : .makeRequest requestId request ∈ events) :
    requestId ∈ socket.requestIds := by
  refine @LabelledRun.invariant _ _ _ _ _ _
    (fun events socket => .makeRequest requestId request ∈ events → requestId ∈ socket.requestIds)
    run (by simp) (fun earlier before event after ih step hmem => ?_) made
  rcases List.mem_append.mp hmem with hbefore | hnew
  · exact step.grows.requestIds _ (ih hbefore)
  · obtain rfl := List.mem_singleton.mp hnew
    cases step with
    | makeRequest request fresh => exact List.mem_append_right _ (List.mem_singleton_self _)

/-- Each request completes exactly once: what holds after a run. -/
structure CompleteOnce (coding : SocketCoding Parameters JSON) (events : List (Event Parameters))
    (socket : SocketRequests Parameters JSON) : Prop where
  once : (socket.socketMessages.calls.map Prod.fst).Nodup
  success : ∀ requestId responseObject,
    (requestId, .success responseObject) ∈ socket.socketMessages.calls →
      ∃ message, .responseReceived message ∈ events ∧ message.requestID = requestId ∧
        (200 ≤ message.status ∧ message.status ≤ 299) ∧ coding.HasValidResponse message
  /-- A request whose call has returned, and which no thread is completing. -/
  pending : ∀ requestId request, .makeRequest requestId request ∈ events →
    socket.makeRequests requestId = none → ¬socket.InHand requestId →
      requestId ∉ socket.socketMessages.calls.map Prod.fst →
        requestId ∈ socket.socketMessageMap ∧ requestId ∈ socket.timeouts
  /-- Once the socket has left the open state, or is yet to enter it. -/
  notOpen : ∀ requestId request, .makeRequest requestId request ∈ events →
    socket.makeRequests requestId = none →
      (∀ message ∈ socket.responding, message.requestID ≠ requestId) →
        socket.state ≠ .opened → socket.main = .failing [] →
          requestId ∈ socket.socketMessages.calls.map Prod.fst
  timedOut : ∀ requestId, .timeoutFired requestId ∈ events →
    requestId ∈ socket.socketMessages.calls.map Prod.fst

/-- **Each request completes exactly once.** -/
theorem requests_complete_once (run : LabelledRun (Step coding) initial events socket) :
    CompleteOnce coding events socket := by
  have horderly := orderly_of_run run
  have hattended := attended_of_run run
  -- A request whose call has returned, once it is accounted for.
  have hwaits (requestId : UInt64) (request : TSRequest Parameters)
      (made : .makeRequest requestId request ∈ events)
      (returned : socket.makeRequests requestId = none) :
      requestId ∈ socket.socketMessages.calls.map Prod.fst ∨ socket.InHand requestId ∨
        (requestId ∈ socket.socketMessageMap ∧ requestId ∈ socket.timeouts) ∧
          (socket.canMakeRequests = true ∨ socket.main = .failAllPending) := by
    rcases hattended.accounted requestId (mem_requestIds_of_run run made) with
      hcompleted | hinHand | ⟨hmap, (⟨_, hstage⟩ | ⟨_, hstage⟩) |
        ⟨hcan, htimeout | ⟨_, hstage⟩ | hstage⟩⟩
    · exact .inl ((horderly.sound.mem_iff requestId).mpr hcompleted)
    · exact .inr (.inl hinHand)
    · rw [returned] at hstage
      cases hstage
    · rw [returned] at hstage
      cases hstage
    · exact .inr (.inr ⟨⟨hmap, htimeout⟩, hcan⟩)
    · rw [returned] at hstage
      cases hstage
    · rw [returned] at hstage
      cases hstage
  refine ⟨horderly.sound.nodup, horderly.succeeded,
    fun requestId request made returned free uncalled => ?_,
    fun requestId request made returned free left idle => ?_,
    fun requestId hfired => (horderly.sound.mem_iff requestId).mpr
      (hattended.timedOut requestId hfired)⟩
  · rcases hwaits requestId request made returned with hcalled | hinHand | ⟨hpending, -⟩
    · exact absurd hcalled uncalled
    · exact absurd hinHand free
    · exact hpending
  · rcases hwaits requestId request made returned with
      hcalled | (⟨message, hmem, hid⟩ | ⟨requestIds, hfails, hmem⟩) | ⟨-, hcan | hfails⟩
    · exact hcalled
    · exact absurd hid (free message hmem)
    · rw [idle] at hfails
      cases hfails
      cases hmem
    · exact absurd (horderly.can.mp hcan) left
    · rw [idle] at hfails
      cases hfails

/-! ### Two requests -/

/-- Parameters and JSON that are nothing but themselves. -/
def plainCoding : SocketCoding Unit Unit where
  dataWithJSONObject _ := some (utf8 "\x7b\x7d")
  JSONObjectWithData body := if body = utf8 "\x7b\x7d" then some () else none
  serializedData proto := proto.request.bind fun request => request.verb.map utf8

/-- A request without a body. -/
def plainRequest : TSRequest Unit where
  httpMethod := "GET"
  path := "v1/profile"
  parameters := none
  allHTTPHeaderFields := []

def openSocket : SocketRequests Unit Unit :=
  { initial with
    state := .opened
    canMakeRequests := true }

theorem run_openSocket :
    LabelledRun (Step plainCoding) initial
      [.stateSet .connecting, .pendingTaken, .stateSet .opened] openSocket := by
  have connecting : LabelledRun (Step plainCoding) initial [.stateSet .connecting]
      { initial with state := .connecting, main := .failAllPending } :=
    .single (.stateSet .connecting rfl)
  have taken : LabelledRun (Step plainCoding) initial [.stateSet .connecting, .pendingTaken]
      { initial with state := .connecting } :=
    connecting.tail (.pendingTaken rfl)
  exact taken.tail (.stateSet .opened rfl)

theorem checkCanMakeRequests_of_can {messageData : NSData} (can : socket.canMakeRequests = true) :
    socket.checkCanMakeRequests requestId messageData =
      socket.proceed requestId (some (.sending messageData)) :=
  if_neg (by simp [can])

/-- What sending a request comes to. -/
def sendEvents (requestId : UInt64) : List (Event Unit) :=
  [.makeRequest requestId plainRequest, .requestEncoded requestId,
    .canMakeRequestsChecked requestId, .dataSent requestId true, .timeoutSet requestId]

/-- An open socket sends a request. -/
theorem run_sendEvents {before : SocketRequests Unit Unit} {events : List (Event Unit)}
    (run : LabelledRun (Step plainCoding) initial events before)
    (can : before.canMakeRequests = true) (fresh : requestId ∉ before.requestIds) :
    ∃ socket, LabelledRun (Step plainCoding) initial (events ++ sendEvents requestId) socket ∧
      socket.canMakeRequests = true ∧ requestId ∈ socket.timeouts ∧
        requestId ∈ socket.socketMessageMap ∧
          socket.requestIds = before.requestIds ++ [requestId] ∧
            socket.responding = before.responding := by
  have made := run.tail (Step.makeRequest plainRequest fresh)
  have encoded := made.tail (@Step.requestEncoded _ _ plainCoding _ requestId plainRequest
    (Function.update_self ..))
  have checked := encoded.tail (@Step.canMakeRequestsChecked _ _ plainCoding _ requestId
    (utf8 "GET") (makeRequests_proceed_self _))
  rw [checkCanMakeRequests_of_can (by exact can)] at checked
  have sent := checked.tail (@Step.dataSent _ _ plainCoding _ requestId (utf8 "GET") true
    (makeRequests_proceed_self _))
  have set := sent.tail (@Step.timeoutSet _ _ plainCoding _ requestId
    (makeRequests_proceed_self _))
  simp only [List.append_assoc, List.cons_append, List.nil_append] at set
  refine ⟨_, set, can, ?_, ?_, rfl, rfl⟩
  · exact List.mem_append_right _ (List.mem_singleton_self _)
  · exact List.mem_append_right _ (List.mem_singleton_self _)

/-- Request 7 is answered, and request 8 times out. -/
theorem completeOnce_answered_timedOut : ∃ socket : SocketRequests Unit Unit,
    CompleteOnce plainCoding
      ([.stateSet .connecting, .pendingTaken, .stateSet .opened] ++ sendEvents 7 ++
        [.responseReceived ⟨7, 200, some (utf8 "\x7b\x7d")⟩] ++ sendEvents 8 ++
          [.responseCompleted ⟨7, 200, some (utf8 "\x7b\x7d")⟩] ++ [.timeoutFired 8]) socket ∧
      7 ∈ socket.socketMessages.hasCompleted ∧ 8 ∈ socket.socketMessages.hasCompleted := by
  obtain ⟨first, hfirst, hcan, -, hmap, hids, hresponding⟩ :=
    run_sendEvents run_openSocket rfl (show 7 ∉ _ by simp [openSocket, initial])
  have received := hfirst.tail
    (@Step.responseReceived _ _ plainCoding _ ⟨7, 200, some (utf8 "\x7b\x7d")⟩ hmap)
  obtain ⟨second, hsecond, -, htimeout, hmap', -, hresponding'⟩ :=
    run_sendEvents received hcan
      (show 8 ∉ first.requestIds by rw [hids]; simp [openSocket, initial])
  have completed := hsecond.tail (@Step.responseCompleted _ _ plainCoding _
    ⟨7, 200, some (utf8 "\x7b\x7d")⟩ [] []
    (by rw [hresponding', hresponding]; rfl))
  have fired := completed.tail (@Step.timeoutFired _ _ plainCoding _ 8 htimeout (.inl hmap'))
  refine ⟨_, requests_complete_once fired, ?_, OneShot.mem_hasCompleted_complete.mpr (.inl rfl)⟩
  exact OneShot.mem_hasCompleted_complete.mpr
    (.inr (OneShot.mem_hasCompleted_complete.mpr (.inl rfl)))

end SocketRequests

end ObjcSwiftLearning.SignalServiceKit
