import ObjcSwiftLearning.Library.LabelledRun
import ObjcSwiftLearning.SignalServiceKit.MessageSend

/-!
# Which requests of a send go by the web socket

A send makes requests: a prekey fetch for each device it has no session with, and a submission in
each attempt.  Each is made by an `OWSRequestMaker` of its own, which tries the web socket if it is
open, and fails over to REST.  The send is told of such a failure, and of an answer that says its
devices are stale, and notes it in `hasWebsocketSendFailed`.

* `AttemptEnvironment.requestsInternal` — the requests of one request maker.
* `SendRequests` — a send, with the requests it has made and what it has noted.
* `SendRequests.along_failsOver_iff` — **in which runs no request goes by the web socket** once one
  has failed: nothing reads the note.
-/

namespace ObjcSwiftLearning.SignalServiceKit

/-! ## The requests of a request maker -/

inductive SendRequestOutcome where
  | succeeded
  /-- A UD request is answered with 401 or 403. -/
  | udAuthFailed
  | failed
  deriving DecidableEq

structure SendRequest where
  /-- It carries the UD access key. -/
  isUDRequest : Bool
  isWebsocketRequest : Bool
  outcome : SendRequestOutcome
  deriving DecidableEq

namespace SendRequest

variable (request : SendRequest)

/-- It was made over the web socket, and has failed. -/
def failsByWebsocket : Bool := request.isWebsocketRequest && request.outcome != .succeeded

def callsWebsocketFailureBlock : Bool := request.isWebsocketRequest && request.outcome == .failed

end SendRequest

namespace AttemptEnvironment

variable (environment : AttemptEnvironment) (hasUDAccess canFailoverUDAuth : Bool)

def udAuthFails (isWebsocketRequest : Bool) : Bool :=
  match environment.service true isWebsocketRequest with
  | .success => false
  | .failure statusCode _ _ => statusCode == 401 || statusCode == 403

def outcome (isUDRequest isWebsocketRequest : Bool) : SendRequestOutcome :=
  match environment.service isUDRequest isWebsocketRequest with
  | .success => .succeeded
  | .failure _ _ _ =>
      if isUDRequest && environment.udAuthFails isWebsocketRequest then .udAuthFailed else .failed

def requestsInternal (skipUD skipWebsocket : Bool) : List SendRequest :=
  let isUDRequest := hasUDAccess && !skipUD
  if environment.canMakeWebsocketRequests isUDRequest = true ∧ skipWebsocket = false then
    ⟨isUDRequest, true, environment.outcome isUDRequest true⟩ ::
      match environment.outcome isUDRequest true with
      | .succeeded => []
      | .udAuthFailed =>
          if isUDRequest = true ∧ canFailoverUDAuth = true then
            requestsInternal true skipWebsocket
          else []
      | .failed => requestsInternal skipUD true
  else
    ⟨isUDRequest, false, environment.outcome isUDRequest false⟩ ::
      match environment.outcome isUDRequest false with
      | .succeeded => []
      | .udAuthFailed =>
          if isUDRequest = true ∧ canFailoverUDAuth = true then
            requestsInternal true skipWebsocket
          else []
      | .failed => []
termination_by (!skipUD).toNat + (!skipWebsocket).toNat
decreasing_by all_goals grind

variable {environment hasUDAccess canFailoverUDAuth} {isUDRequest isWebsocketRequest : Bool}

theorem service_of_succeeded (h : environment.outcome isUDRequest isWebsocketRequest = .succeeded) :
    environment.service isUDRequest isWebsocketRequest = .success := by
  rw [AttemptEnvironment.outcome] at h
  split at h
  · assumption
  · split at h <;> cases h

theorem service_of_udAuthFailed
    (h : environment.outcome isUDRequest isWebsocketRequest = .udAuthFailed) :
    ∃ statusCode responseData isRetryable,
      environment.service isUDRequest isWebsocketRequest =
        .failure statusCode responseData isRetryable ∧
      (isUDRequest = true ∧ (statusCode = 401 ∨ statusCode = 403)) := by
  rw [AttemptEnvironment.outcome] at h
  split at h
  · cases h
  · rename_i statusCode responseData isRetryable hservice
    split at h
    · rename_i hauth
      obtain ⟨rfl, hauth⟩ := Bool.and_eq_true_iff.mp hauth
      rw [udAuthFails, hservice] at hauth
      exact ⟨statusCode, responseData, isRetryable, hservice, rfl, by simpa using hauth⟩
    · cases h

theorem service_of_failed (h : environment.outcome isUDRequest isWebsocketRequest = .failed) :
    ∃ statusCode responseData isRetryable,
      environment.service isUDRequest isWebsocketRequest =
        .failure statusCode responseData isRetryable ∧
      ¬(isUDRequest = true ∧ (statusCode = 401 ∨ statusCode = 403)) := by
  rw [AttemptEnvironment.outcome] at h
  split at h
  · cases h
  · rename_i statusCode responseData isRetryable hservice
    split at h
    · cases h
    · rename_i hauth
      refine ⟨statusCode, responseData, isRetryable, hservice, ?_⟩
      rintro ⟨rfl, hcode⟩
      refine hauth ?_
      rw [udAuthFails, hservice]
      simpa using hcode

/-- The result is reported as sent by UD if the request that has succeeded carried the UD access
key, and as a success only if one has. -/
def Reports (result : RequestResult) (requests : List SendRequest) : Prop :=
  ∀ wasSentByUD, result = .succeeded wasSentByUD ↔
    ∃ request ∈ requests, request.outcome = .succeeded ∧ request.isUDRequest = wasSentByUD

variable {result : RequestResult} {requests : List SendRequest} {request : SendRequest}

theorem reports_succeeded (isUDRequest isWebsocketRequest : Bool) :
    Reports (.succeeded isUDRequest) [⟨isUDRequest, isWebsocketRequest, .succeeded⟩] := by
  intro wasSentByUD
  simp

theorem reports_failed (h : request.outcome ≠ .succeeded)
    (hresult : ∀ wasSentByUD, result ≠ .succeeded wasSentByUD) : Reports result [request] := by
  intro wasSentByUD
  simp [h, hresult wasSentByUD]

theorem Reports.cons (reports : Reports result requests) (h : request.outcome ≠ .succeeded) :
    Reports result (request :: requests) := by
  intro wasSentByUD
  rw [reports wasSentByUD]
  simp [h]

/-- A UD request that is refused is made again without unidentified delivery, if that may be. -/
theorem reports_refused (h : request.outcome = .udAuthFailed) (hUD : isUDRequest = true)
    (hagain : isUDRequest = true ∧ canFailoverUDAuth = true → Reports result requests) :
    Reports (if canFailoverUDAuth then (result, true) else (.udAuthFailed, true)).1
      (request :: if isUDRequest = true ∧ canFailoverUDAuth = true then requests else []) := by
  have hfailed : request.outcome ≠ .succeeded := by simp [h]
  cases canFailoverUDAuth with
  | true => simpa [hUD] using (hagain ⟨hUD, rfl⟩).cons hfailed
  | false => simpa using @reports_failed .udAuthFailed request hfailed nofun

/-- The answer to a request, where `failed` and `rest` are what a plain failure leads to, and `again`
and `requests` what is made without unidentified delivery. -/
theorem reports_answer {again : RequestResult} {rest : List SendRequest}
    {failed : ℤ → Option ResponseData → Bool → RequestResult × Bool}
    (hagain : isUDRequest = true ∧ canFailoverUDAuth = true → Reports again requests)
    (hfailed : ∀ statusCode responseData isRetryable,
      Reports (failed statusCode responseData isRetryable).1
        (⟨isUDRequest, isWebsocketRequest, .failed⟩ :: rest)) :
    Reports
      (match environment.service isUDRequest isWebsocketRequest with
      | .success => (RequestResult.succeeded isUDRequest, false)
      | .failure statusCode responseData isRetryable =>
          if isUDRequest = true ∧ (statusCode = 401 ∨ statusCode = 403) then
            if canFailoverUDAuth then (again, true) else (.udAuthFailed, true)
          else failed statusCode responseData isRetryable).1
      (⟨isUDRequest, isWebsocketRequest, environment.outcome isUDRequest isWebsocketRequest⟩ ::
        match environment.outcome isUDRequest isWebsocketRequest with
        | .succeeded => []
        | .udAuthFailed => if isUDRequest = true ∧ canFailoverUDAuth = true then requests else []
        | .failed => rest) := by
  cases houtcome : environment.outcome isUDRequest isWebsocketRequest with
  | succeeded =>
      simp only [service_of_succeeded houtcome]
      exact reports_succeeded _ _
  | udAuthFailed =>
      obtain ⟨statusCode, responseData, isRetryable, hservice, hauth⟩ :=
        service_of_udAuthFailed houtcome
      simp only [hservice, if_pos hauth]
      exact reports_refused rfl hauth.1 hagain
  | failed =>
      obtain ⟨statusCode, responseData, isRetryable, hservice, hauth⟩ := service_of_failed houtcome
      simp only [hservice, if_neg hauth]
      exact hfailed statusCode responseData isRetryable

/-- **What a request maker reports.** -/
theorem reports_makeRequestInternal (skipUD skipWebsocket : Bool) :
    Reports
      (environment.makeRequestInternal hasUDAccess canFailoverUDAuth skipUD skipWebsocket).1
      (environment.requestsInternal hasUDAccess canFailoverUDAuth skipUD skipWebsocket) := by
  induction skipUD, skipWebsocket using requestsInternal.induct environment hasUDAccess
    canFailoverUDAuth with
  | case1 skipUD skipWebsocket isUDRequest hsocket hwithoutUD hwithoutSocket =>
      rw [requestsInternal, makeRequestInternal, if_pos hsocket, if_pos hsocket]
      exact reports_answer hwithoutUD fun _ _ _ => hwithoutSocket.cons (by simp)
  -- Past the web socket there is only one way on: without unidentified delivery.
  | case2 skipUD skipWebsocket isUDRequest hsocket hwithoutUD =>
      rw [requestsInternal, makeRequestInternal, if_neg hsocket, if_neg hsocket]
      have hfailed : ∀ statusCode responseData isRetryable,
          Reports (.failed statusCode responseData isRetryable) [⟨isUDRequest, false, .failed⟩] :=
        fun _ _ _ => reports_failed (by simp) (by simp)
      exact @reports_answer environment canFailoverUDAuth isUDRequest false _ _ []
        (fun statusCode responseData isRetryable =>
          (.failed statusCode responseData isRetryable, false)) hwithoutUD hfailed

end AttemptEnvironment

/-! ## Keeping off the web socket -/

/-- No request of these goes by the web socket once one has failed there, or before if
`hasFailed`. -/
def OffWebsocket : Bool → List SendRequest → Prop
  | _, [] => True
  | hasFailed, request :: requests =>
      (hasFailed = true → request.isWebsocketRequest = false) ∧
        OffWebsocket (hasFailed || request.failsByWebsocket) requests

theorem offWebsocket_of_rest {hasFailed : Bool} {requests : List SendRequest}
    (h : ∀ request ∈ requests, request.isWebsocketRequest = false) :
    OffWebsocket hasFailed requests := by
  induction requests generalizing hasFailed with
  | nil => trivial
  | cons request requests ih =>
      exact ⟨fun _ => h request List.mem_cons_self,
        ih fun other hother => h other (List.mem_cons_of_mem request hother)⟩

namespace AttemptEnvironment

variable {environment : AttemptEnvironment} {hasUDAccess canFailoverUDAuth hasFailed : Bool}

/-- A request maker that skips the web socket makes REST requests only. -/
theorem rest_of_skipWebsocket (skipUD : Bool) :
    ∀ request ∈ environment.requestsInternal hasUDAccess canFailoverUDAuth skipUD true,
      request.isWebsocketRequest = false := by
  have hlast : ∀ request ∈ environment.requestsInternal hasUDAccess canFailoverUDAuth true true,
      request.isWebsocketRequest = false := by
    rw [requestsInternal, if_neg (by simp)]
    cases environment.outcome (hasUDAccess && !true) false <;> simp
  cases skipUD with
  | true => exact hlast
  | false =>
      rw [requestsInternal, if_neg (by simp)]
      intro request hrequest
      rcases List.mem_cons.mp hrequest with rfl | hlater
      · rfl
      · split at hlater
        · cases hlater
        · split at hlater
          · exact hlast request hlater
          · cases hlater
        · cases hlater

/-- A request maker that makes a basic request goes by the web socket if that is open. -/
theorem offWebsocket_of_basic (skipUD : Bool) (hbasic : (hasUDAccess && !skipUD) = false) :
    OffWebsocket hasFailed
        (environment.requestsInternal hasUDAccess canFailoverUDAuth skipUD false) ↔
      (hasFailed = true → environment.canMakeWebsocketRequests false = false) := by
  rw [requestsInternal]
  simp only [hbasic, Bool.false_eq_true, false_and, if_false]
  by_cases hsocket : environment.canMakeWebsocketRequests false = true
  · rw [if_pos ⟨hsocket, trivial⟩, OffWebsocket]
    refine ⟨fun h hfailed => by simpa using h.1 hfailed, fun h => ⟨?_, ?_⟩⟩
    · intro hfailed
      rw [h hfailed] at hsocket
      cases hsocket
    · split
      · trivial
      · trivial
      · exact offWebsocket_of_rest (rest_of_skipWebsocket skipUD)
  · rw [if_neg (by simp [hsocket]), OffWebsocket]
    refine iff_of_true ⟨fun _ => rfl, ?_⟩ fun _ => by simpa using hsocket
    split <;> trivial

/-- Where a request maker asks for a web socket once a request of the send has failed there, it
finds none: for its first request, and for the basic request that it makes after a UD request has
been refused. -/
def FindsNoSocket (environment : AttemptEnvironment)
    (hasUDAccess canFailoverUDAuth hasFailed : Bool) : Prop :=
  (hasFailed = true → environment.canMakeWebsocketRequests hasUDAccess = false) ∧
    (hasUDAccess = true → canFailoverUDAuth = true →
      environment.udAuthFails (environment.canMakeWebsocketRequests true) = true →
        hasFailed = true ∨ environment.canMakeWebsocketRequests true = true →
          environment.canMakeWebsocketRequests false = false)

theorem udAuthFails_iff {isWebsocketRequest : Bool} :
    environment.outcome true isWebsocketRequest = .udAuthFailed ↔
      environment.udAuthFails isWebsocketRequest = true := by
  rw [AttemptEnvironment.outcome]
  cases hservice : environment.service true isWebsocketRequest with
  | success => simp [udAuthFails, hservice]
  | failure statusCode responseData isRetryable => simp

/-- **When a request maker keeps off the web socket.** -/
theorem offWebsocket_iff :
    OffWebsocket hasFailed
        (environment.requestsInternal hasUDAccess canFailoverUDAuth false false) ↔
      environment.FindsNoSocket hasUDAccess canFailoverUDAuth hasFailed := by
  cases hasUDAccess with
  | false =>
      rw [offWebsocket_of_basic false rfl, FindsNoSocket]
      simp
  | true =>
      have hbasic : ∀ failed, OffWebsocket failed
          (environment.requestsInternal true canFailoverUDAuth true false) ↔
            (failed = true → environment.canMakeWebsocketRequests false = false) :=
        fun failed => offWebsocket_of_basic true rfl
      rw [requestsInternal, FindsNoSocket]
      simp only [Bool.not_false, Bool.and_true, true_and]
      cases hsocket : environment.canMakeWebsocketRequests true with
      | true =>
          rw [if_pos ⟨rfl, trivial⟩, OffWebsocket]
          cases houtcome : environment.outcome true true with
          | succeeded =>
              have hauth : environment.udAuthFails true = false := by
                simp [← Bool.not_eq_true, ← udAuthFails_iff, houtcome]
              simp [hauth, OffWebsocket]
          | udAuthFailed =>
              have hauth := udAuthFails_iff.mp houtcome
              cases canFailoverUDAuth with
              | true => simp [hauth, hbasic, SendRequest.failsByWebsocket]
              | false => simp [hauth, OffWebsocket]
          | failed =>
              have hauth : environment.udAuthFails true = false := by
                simp [← Bool.not_eq_true, ← udAuthFails_iff, houtcome]
              simp [hauth, offWebsocket_of_rest (rest_of_skipWebsocket false)]
      | false =>
          rw [if_neg (by simp), OffWebsocket]
          cases houtcome : environment.outcome true false with
          | succeeded | failed =>
              have hauth : environment.udAuthFails false = false := by
                simp [← Bool.not_eq_true, ← udAuthFails_iff, houtcome]
              simp [hauth, OffWebsocket]
          | udAuthFailed =>
              have hauth := udAuthFails_iff.mp houtcome
              cases canFailoverUDAuth with
              | true => simp [hauth, hbasic, SendRequest.failsByWebsocket]
              | false => simp [hauth, OffWebsocket]

end AttemptEnvironment

/-! ## A send -/

structure SendRequests where
  messageSend : OWSMessageSend
  hasWebsocketSendFailed : Bool
  requests : List SendRequest
  /-- A 409 or a 410 was received for the local number. -/
  hasStaleDevices : Bool
  deriving DecidableEq

/-- What happens during one send. -/
inductive SendRequestEvent where
  | attempt
  | prekeyFetch (environment : AttemptEnvironment)
  | submission (environment : AttemptEnvironment)

namespace SendRequests

variable (s : SendRequests)

/-- A send that has made no request. -/
def new (messageSend : OWSMessageSend) : SendRequests where
  messageSend
  hasWebsocketSendFailed := false
  requests := []
  hasStaleDevices := false

/-- A request of the send that was made over the web socket has failed, or a 409 or 410 was
received for the local number. -/
def hasFailed : Bool := s.hasStaleDevices || s.requests.any SendRequest.failsByWebsocket

def canFailoverUDAuth : Bool := !s.messageSend.isLocalNumber

def makes (environment : AttemptEnvironment) (canFailoverUDAuth : Bool) : List SendRequest :=
  environment.requestsInternal s.messageSend.hasUDAccess canFailoverUDAuth false false

/-- The result of a request maker of the send, and whether it calls the `udAuthFailureBlock`. -/
def result (environment : AttemptEnvironment) (canFailoverUDAuth : Bool) : RequestResult × Bool :=
  environment.makeRequestInternal s.messageSend.hasUDAccess canFailoverUDAuth false false

/-- `makeRequestObjc`, with what its blocks note in the send. -/
def makeRequest (environment : AttemptEnvironment) (canFailoverUDAuth : Bool) : SendRequests :=
  { s with
    messageSend :=
      if (s.result environment canFailoverUDAuth).2 then s.messageSend.disableUD
      else s.messageSend
    hasWebsocketSendFailed := s.hasWebsocketSendFailed ||
      (s.makes environment canFailoverUDAuth).any SendRequest.callsWebsocketFailureBlock
    requests := s.requests ++ s.makes environment canFailoverUDAuth }

def messageSendDidFail (result : RequestResult) : SendRequests :=
  match result with
  | .succeeded _ | .udAuthFailed => s
  | .failed statusCode responseData _ =>
      if (statusCode = 409 ∨ statusCode = 410) ∧ s.messageSend.isLocalNumber = true then
        { s with
          hasWebsocketSendFailed := s.hasWebsocketSendFailed ||
            match SignalServiceKit.messageSendDidFail statusCode responseData with
            | .retries | .stalls => true
            | .fails _ | .unregistered | .raises => false
          hasStaleDevices := true }
      else s

@[simp] theorem requests_messageSendDidFail (result : RequestResult) :
    (s.messageSendDidFail result).requests = s.requests := by
  cases result with
  | succeeded wasSentByUD => rfl
  | udAuthFailed => rfl
  | failed statusCode responseData isRetryable =>
      rw [messageSendDidFail]
      split <;> rfl

def next : SendRequestEvent → SendRequests
  | .attempt => { s with messageSend := AttemptEnvironment.prepared s.messageSend }
  | .prekeyFetch environment => s.makeRequest environment true
  | .submission environment =>
      (s.makeRequest environment s.canFailoverUDAuth).messageSendDidFail
        (s.result environment s.canFailoverUDAuth).1

@[simp] theorem requests_next_attempt : (s.next .attempt).requests = s.requests := rfl

@[simp] theorem requests_next_submission (environment : AttemptEnvironment) :
    (s.next (.submission environment)).requests =
      s.requests ++ s.makes environment s.canFailoverUDAuth := by
  rw [next, requests_messageSendDidFail, makeRequest]

/-- **It fails over to REST for good**: no request goes by the web socket once one has failed
there, and a result is reported as sent by UD if the request that has succeeded carried the UD
access key. -/
def FailsOver : SendRequestEvent → Prop
  | .attempt => True
  | .prekeyFetch environment =>
      OffWebsocket s.hasFailed (s.makes environment true) ∧
        AttemptEnvironment.Reports (s.result environment true).1 (s.makes environment true)
  | .submission environment =>
      OffWebsocket s.hasFailed (s.makes environment s.canFailoverUDAuth) ∧
        AttemptEnvironment.Reports (s.result environment s.canFailoverUDAuth).1
          (s.makes environment s.canFailoverUDAuth)

/-- Where it asks for a web socket after a request has failed there, it finds none. -/
def FindsNoSocket : SendRequestEvent → Prop
  | .attempt => True
  | .prekeyFetch environment =>
      environment.FindsNoSocket s.messageSend.hasUDAccess true s.hasFailed
  | .submission environment =>
      environment.FindsNoSocket s.messageSend.hasUDAccess s.canFailoverUDAuth s.hasFailed

variable {s}

theorem failsOver_iff (event : SendRequestEvent) : s.FailsOver event ↔ s.FindsNoSocket event := by
  cases event with
  | attempt => exact Iff.rfl
  | prekeyFetch environment | submission environment =>
      rw [FailsOver, FindsNoSocket, makes, AttemptEnvironment.offWebsocket_iff]
      exact and_iff_left (AttemptEnvironment.reports_makeRequestInternal false false)

/-- **In which runs a send fails over to REST for good**: in those where it never finds an open
web socket where it asks for one after a failure. -/
theorem along_failsOver_iff (start : SendRequests) (events : List SendRequestEvent) :
    LabelledRun.Along next FailsOver start events ↔
      LabelledRun.Along next FindsNoSocket start events := by
  induction events generalizing start with
  | nil => exact Iff.rfl
  | cons event events ih => exact and_congr (failsOver_iff event) (ih (start.next event))

/-- An open web socket, and a service that answers every request with 500. -/
def sampleOutage : AttemptEnvironment where
  isAppLockedDueToPreKeyUpdateFailures := false
  rotateSignedPreKey := .never
  deviceMessages := .ok []
  mayHaveLinkedDevices := false
  canMakeWebsocketRequests _ := true
  service _ _ := .failure 500 none true

/-- A send to another recipient, without UD. -/
def sampleSend : OWSMessageSend where
  recipientId := "+15550002"
  localNumber := "+15550001"
  isSyncMessage := false
  isSentMessageTranscript := false
  hasUDAccess := false

theorem makes_sampleOutage (h : s.messageSend.hasUDAccess = false) (canFailoverUDAuth : Bool) :
    s.makes sampleOutage canFailoverUDAuth = [⟨false, true, .failed⟩, ⟨false, false, .failed⟩] := by
  have hwebsocket : sampleOutage.outcome false true = .failed := rfl
  have hrest : sampleOutage.outcome false false = .failed := rfl
  rw [makes, h, AttemptEnvironment.requestsInternal, Bool.false_and, if_pos ⟨rfl, rfl⟩, hwebsocket]
  dsimp only
  rw [AttemptEnvironment.requestsInternal, Bool.false_and, if_neg (by simp), hrest]

/-- The second attempt goes by the web socket again. -/
theorem second_attempt_by_websocket :
    ¬LabelledRun.Along next FailsOver (new sampleSend)
      [.attempt, .submission sampleOutage, .attempt, .submission sampleOutage] := by
  rintro ⟨-, -, -, h, -⟩
  have hsocket := ((failsOver_iff _).mp h).1
  have hrequests : ((((new sampleSend).next .attempt).next (.submission sampleOutage)).next
      .attempt).requests = [⟨false, true, .failed⟩, ⟨false, false, .failed⟩] := by
    rw [requests_next_attempt, requests_next_submission, makes_sampleOutage rfl]
    rfl
  have hfailed : ((((new sampleSend).next .attempt).next (.submission sampleOutage)).next
      .attempt).hasFailed = true := by
    rw [hasFailed, hrequests]
    simp [SendRequest.failsByWebsocket]
  exact absurd (hsocket hfailed) (by simp [sampleOutage])

end SendRequests

end ObjcSwiftLearning.SignalServiceKit
