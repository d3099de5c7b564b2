import Mathlib.Data.Int.Basic
import Mathlib.Data.List.Basic
import Mathlib.Tactic.Common

/-!
# One message, one recipient

An `OWSMessageSend` is an effort to send a message to a recipient, over several
attempts.  `sendMessageToRecipient:` makes one: it builds the device messages,
submits them through a request maker, which tries unidentified and basic auth, the
web socket and REST, and on failure repairs the list of devices and tries again, as
long as attempts remain.  It is to call `success` or `failure` once.

* `AttemptEnvironment` — all that an attempt meets: the state of the prekeys, what
  comes of building device messages, and each answer of the service.
* `sendMessageToRecipient` — the calls that are made, in their order.
* `completesOnce_iff` — **exactly one call of `success` or `failure` is made**, with
  an error, and nothing submitted while the app is locked, unless an attempt meets one
  of three conditions: the app is locked, the devices mismatch and the service does
  not say how, or they are stale and it does not say which.

What the handlers do to sessions and to the lists of devices is left out: the next
attempt finds whatever device messages it finds.
-/

namespace ObjcSwiftLearning.SignalServiceKit

/-! ## Errors -/

/-- `OWSErrorCode`, as far as sending makes errors of its own. -/
inductive SendErrorCode where
  | untrustedIdentity
  | signalServiceRateLimited
  | failedToSendOutgoingMessage
  | signalServiceFailure
  | noSuchSignalRecipient
  | unableToProcessServerResponse
  | messageSendDisabledDueToPreKeyUpdateFailures
  | messageSendFailedToBlockList
  | messageSendNoValidRecipients
  | messageDeletedBeforeSent
  | requestMakerUDAuthError
  /-- The error is another component's. -/
  | other
  deriving DecidableEq

/-- An `NSError`, with the flags that sending puts on it.  No other component makes an
error fatal, or one to be ignored for groups. -/
structure SendError where
  code : SendErrorCode
  isRetryable : Bool
  isFatal : Bool
  shouldBeIgnoredForGroups : Bool
  deriving DecidableEq

namespace SendError

def ofCode (code : SendErrorCode) (isRetryable : Bool) : SendError where
  code
  isRetryable
  isFatal := false
  shouldBeIgnoredForGroups := false

/-- The error for a recipient who is not registered; a group is not to fail for it. -/
def unregisteredRecipient : SendError :=
  { ofCode .noSuchSignalRecipient false with shouldBeIgnoredForGroups := true }

end SendError

/-! ## What an attempt meets -/

/-- What `throws_deviceMessagesForMessageSendUnsafe:` raises. -/
inductive DeviceMessagesException where
  | untrustedIdentityKey
  | rateLimited
  | other
  deriving DecidableEq

def DeviceMessagesException.error : DeviceMessagesException → SendError
  | .untrustedIdentityKey => { SendError.ofCode .untrustedIdentity false with isFatal := true }
  | .rateLimited => { SendError.ofCode .signalServiceRateLimited false with isFatal := true }
  | .other => .ofCode .failedToSendOutgoingMessage true

structure DeviceMessage where
  destination : Option String
  destinationDeviceId : Option ℤ
  deriving DecidableEq

def OWSDevicePrimaryDeviceId : ℤ := 1

/-- What stands under a key of a response, as the messages to it find it: it answers
them as a list of device ids does, or raises. -/
inductive DeviceListJson where
  | devices (ids : List ℤ)
  | other
  deriving DecidableEq

/-- The count that is sent to it; none if that raises. -/
def DeviceListJson.count : Option DeviceListJson → Option ℕ
  | none => some 0
  | some (.devices ids) => some ids.length
  | some .other => none

/-- The keys of a response that are read. -/
structure ResponseJson where
  /-- None if there is none or it is no number. -/
  code : Option ℤ
  extraDevices : Option DeviceListJson
  missingDevices : Option DeviceListJson
  staleDevices : Option DeviceListJson
  deriving DecidableEq

inductive ResponseData where
  | notJson
  /-- JSON, and an array. -/
  | notDictionary
  | dictionary (responseJson : ResponseJson)
  deriving DecidableEq

/-- How the service answers one request. -/
inductive ServiceResponse where
  | success
  | failure (statusCode : ℤ) (responseData : Option ResponseData) (isRetryable : Bool)
  deriving DecidableEq

/-- How `rotateSignedPreKeyWithSuccess:failure:` answers. -/
inductive RotationAnswer where
  /-- The account is not registered, and the operation never finishes. -/
  | never
  | success
  | failure (isRetryable : Bool)
  deriving DecidableEq

structure AttemptEnvironment where
  isAppLockedDueToPreKeyUpdateFailures : Bool
  rotateSignedPreKey : RotationAnswer
  deviceMessages : Except DeviceMessagesException (List DeviceMessage)
  mayHaveLinkedDevices : Bool
  canMakeWebsocketRequests : Bool → Bool
  /-- By whether the request is a UD request, and whether it goes by the web socket. -/
  service : Bool → Bool → ServiceResponse

/-! ## The request maker -/

/-- What a request maker's promise comes to. -/
inductive RequestResult where
  | succeeded (wasSentByUD : Bool)
  | udAuthFailed
  | failed (statusCode : ℤ) (responseData : Option ResponseData) (isRetryable : Bool)
  deriving DecidableEq

namespace AttemptEnvironment

variable (environment : AttemptEnvironment)

/-- `makeRequestInternal(skipUD:skipWebsocket:)`, and whether the `udAuthFailureBlock`
has been called. -/
def makeRequestInternal (hasUDAccess canFailoverUDAuth skipUD skipWebsocket : Bool) :
    RequestResult × Bool :=
  let isUDRequest := hasUDAccess && !skipUD
  if environment.canMakeWebsocketRequests isUDRequest = true ∧ skipWebsocket = false then
    match environment.service isUDRequest true with
    | .success => (.succeeded isUDRequest, false)
    | .failure statusCode _ _ =>
        -- Unidentified delivery is refused; a request that may is made again without it.
        if isUDRequest = true ∧ (statusCode = 401 ∨ statusCode = 403) then
          if canFailoverUDAuth then
            ((makeRequestInternal hasUDAccess canFailoverUDAuth true skipWebsocket).1, true)
          else (.udAuthFailed, true)
        -- Any other failure of the web socket leads to REST.
        else makeRequestInternal hasUDAccess canFailoverUDAuth skipUD true
  else
    match environment.service isUDRequest false with
    | .success => (.succeeded isUDRequest, false)
    | .failure statusCode responseData isRetryable =>
        if isUDRequest = true ∧ (statusCode = 401 ∨ statusCode = 403) then
          if canFailoverUDAuth then
            ((makeRequestInternal hasUDAccess canFailoverUDAuth true skipWebsocket).1, true)
          else (.udAuthFailed, true)
        else (.failed statusCode responseData isRetryable, false)
termination_by (!skipUD).toNat + (!skipWebsocket).toNat
decreasing_by all_goals grind

end AttemptEnvironment

/-! ## The send -/

/-- `OWSMessageSend`; its `remainingAttempts` are counted beside it. -/
structure OWSMessageSend where
  recipientId : String
  localNumber : String
  isSyncMessage : Bool
  isSentMessageTranscript : Bool
  hasUDAccess : Bool
  deriving DecidableEq

namespace OWSMessageSend

variable (messageSend : OWSMessageSend)

def isLocalNumber : Bool := messageSend.localNumber == messageSend.recipientId

def disableUD : OWSMessageSend := { messageSend with hasUDAccess := false }

def hasDeviceMessages (deviceMessages : List DeviceMessage) : Bool :=
  deviceMessages.any fun deviceMessage =>
    deviceMessage.destination == some messageSend.localNumber &&
      match deviceMessage.destinationDeviceId with
      | none => false
      | some destinationDeviceId => destinationDeviceId != OWSDevicePrimaryDeviceId

end OWSMessageSend

inductive SendCall where
  /-- A rotation is begun that will call `failure` with the error when it has an
  answer; none if it will never have one. -/
  | rotateSignedPreKey (failure : Option SendError)
  /-- The device messages are handed to a request maker, by an attempt that found the
  app locked or not. -/
  | submission (isAppLocked : Bool)
  | updateWithSentRecipient (wasSentByUD : Bool)
  | updateWithSkippedRecipient
  | unregisteredRecipient
  | success
  | failure (error : Option SendError)
  /-- A message to an object that does not answer it ends the app. -/
  | exception
  deriving DecidableEq

namespace SendCall

/-- The call is one of `success` or `failure`, or leads to one. -/
def completes : SendCall → Bool
  | .rotateSignedPreKey answer => answer.isSome
  | .success | .failure _ => true
  | _ => false

def isSubmission : SendCall → Bool
  | .submission _ => true
  | _ => false

end SendCall

/-- What is to be done about a failed request. -/
inductive FailureVerdict where
  | fails (error : Option SendError)
  /-- `handle404`. -/
  | unregistered
  /-- `retrySend`. -/
  | retries
  /-- Nothing is called at all. -/
  | stalls
  | raises
  deriving DecidableEq

/-- `handleMismatchedDevicesWithResponseJson:recipient:completion:`. -/
def handleMismatchedDevices (responseJson : ResponseJson) : FailureVerdict :=
  match DeviceListJson.count responseJson.missingDevices,
    DeviceListJson.count responseJson.extraDevices with
  | some _, some _ => .retries
  | _, _ => .raises

/-- `handleStaleDevicesWithResponseJson:recipientId:completion:`. -/
def handleStaleDevices (responseJson : ResponseJson) : FailureVerdict :=
  match DeviceListJson.count responseJson.staleDevices with
  | none => .raises
  | some count => if 0 < count then .retries else .stalls

def messageSendDidFail (statusCode : ℤ) (responseData : Option ResponseData) : FailureVerdict :=
  if statusCode = 401 then .fails (some (.ofCode .signalServiceFailure false))
  else if statusCode = 404 then .unregistered
  else if statusCode = 409 then
    match responseData with
    -- no error has been made, and `failure` gets none
    | none => .fails none
    | some .notJson => .fails (some (.ofCode .other true))
    | some .notDictionary => .raises
    | some (.dictionary responseJson) =>
        if responseJson.code = some 404 then .unregistered
        else handleMismatchedDevices responseJson
  else if statusCode = 410 then
    match responseData with
    | none | some .notJson => .fails (some (.ofCode .unableToProcessServerResponse true))
    | some .notDictionary => .raises
    | some (.dictionary responseJson) => handleStaleDevices responseJson
  else .retries

/-- How an attempt that has one left ends. -/
inductive AttemptOutcome where
  | notSubmitted (calls : List SendCall)
  | submitted (calls : List SendCall)
  /-- It has been submitted, and calls `retrySend`. -/
  | retried (responseError : SendError) (messageSend : OWSMessageSend)
  deriving DecidableEq

namespace AttemptEnvironment

variable (environment : AttemptEnvironment) (messageSend : OWSMessageSend)

/-- The attempt begins by a rotation, if the app is locked. -/
def rotationCalls : List SendCall :=
  if environment.isAppLockedDueToPreKeyUpdateFailures then
    [.rotateSignedPreKey
      (match environment.rotateSignedPreKey with
      | .never => none
      | .success => some (.ofCode .messageSendDisabledDueToPreKeyUpdateFailures true)
      | .failure isRetryable => some (.ofCode .other isRetryable))]
  else []

/-- The send as the device messages are built for it. -/
def prepared : OWSMessageSend :=
  if messageSend.isSyncMessage && !messageSend.isSentMessageTranscript then messageSend.disableUD
  else messageSend

/-- A sync message is skipped for want of linked devices. -/
def skips (deviceMessages : List DeviceMessage) : Bool :=
  messageSend.isLocalNumber && !environment.mayHaveLinkedDevices &&
    !messageSend.hasDeviceMessages deviceMessages

/-- What the request maker of the attempt comes to. -/
def makeRequest : RequestResult × Bool :=
  environment.makeRequestInternal (prepared messageSend).hasUDAccess (!messageSend.isLocalNumber)
    false false

/-- The outcome of a submission that has failed. -/
def didFail (messageSend : OWSMessageSend) (statusCode : ℤ) (responseData : Option ResponseData)
    (error : SendError) : AttemptOutcome :=
  match messageSendDidFail statusCode responseData with
  | .fails error => .submitted [.failure error]
  | .unregistered => .submitted [.unregisteredRecipient, .failure (some .unregisteredRecipient)]
  | .retries => .retried error messageSend
  | .stalls => .submitted []
  | .raises => .submitted [.exception]

/-- `sendMessageToRecipient:`, with an attempt to consume. -/
def attempt : AttemptOutcome :=
  match environment.deviceMessages with
  | .error exception => .notSubmitted [.failure (some exception.error)]
  | .ok deviceMessages =>
      if environment.skips messageSend deviceMessages then
        .notSubmitted [.updateWithSkippedRecipient, .success]
      else
        let result := environment.makeRequest messageSend
        let messageSend :=
          if result.2 then (prepared messageSend).disableUD else prepared messageSend
        match result.1 with
        | .succeeded wasSentByUD => .submitted [.updateWithSentRecipient wasSentByUD, .success]
        | .udAuthFailed => didFail messageSend 0 none (.ofCode .requestMakerUDAuthError true)
        | .failed statusCode responseData isRetryable =>
            didFail messageSend statusCode responseData (.ofCode .other isRetryable)

end AttemptEnvironment

/-- `sendMessageToRecipient:`, with `remainingAttempts`; the attempt of each number
meets its own environment. -/
def sendMessageToRecipient (environment : ℕ → AttemptEnvironment) :
    (remainingAttempts number : ℕ) → OWSMessageSend → List SendCall
  | 0, number, _ =>
      (environment number).rotationCalls ++
        [.failure (some (.ofCode .failedToSendOutgoingMessage true))]
  | remainingAttempts + 1, number, messageSend =>
      (environment number).rotationCalls ++
        match (environment number).attempt messageSend with
        | .notSubmitted calls => calls
        | .submitted calls =>
            .submission (environment number).isAppLockedDueToPreKeyUpdateFailures :: calls
        | .retried responseError messageSend =>
            .submission (environment number).isAppLockedDueToPreKeyUpdateFailures ::
              if remainingAttempts ≤ 0 then [.failure (some responseError)]
              else
                sendMessageToRecipient environment remainingAttempts (number + 1) messageSend

def kMaxRetriesPerRecipient : ℕ := 3

/-- `sendMessageToRecipient environment remainingAttempts number messageSend` comes to
make the attempt of a number, with what remains of the attempts and the send as it is
then. -/
inductive Reaches (environment : ℕ → AttemptEnvironment) :
    (remainingAttempts number : ℕ) → OWSMessageSend → ℕ → ℕ → OWSMessageSend → Prop
  | here {remainingAttempts number : ℕ} {messageSend : OWSMessageSend} :
      Reaches environment remainingAttempts number messageSend remainingAttempts number messageSend
  | retrySend {remainingAttempts number remaining' number' : ℕ}
      {messageSend retried messageSend' : OWSMessageSend} {responseError : SendError}
      (retries : (environment number).attempt messageSend = .retried responseError retried)
      (later : Reaches environment (remainingAttempts + 1) (number + 1) retried remaining' number'
        messageSend') :
      Reaches environment (remainingAttempts + 2) number messageSend remaining' number' messageSend'

/-! ## One completion -/

/-- The calls of a send that had so many attempts are as they are to be: `success` or
`failure` is called once, `failure` with an error, no more is submitted than there
were attempts, and nothing by an attempt that found the app locked. -/
structure CompletesOnce (remainingAttempts : ℕ) (calls : List SendCall) : Prop where
  once : calls.countP SendCall.completes = 1
  hasError : .failure none ∉ calls
  submissions_le : calls.countP SendCall.isSubmission ≤ remainingAttempts
  unlocked : .submission true ∉ calls

/-- The body of a 409 that does not say how the devices mismatch. -/
def OmitsMismatch : Option ResponseData → Prop
  | none | some .notDictionary => True
  | some .notJson => False
  | some (.dictionary responseJson) =>
      responseJson.code ≠ some 404 ∧
        (responseJson.missingDevices = some .other ∨ responseJson.extraDevices = some .other)

/-- The body of a 410 that is JSON and names no stale device. -/
def OmitsStale : Option ResponseData → Prop
  | none | some .notJson => False
  | some .notDictionary => True
  | some (.dictionary responseJson) =>
      ∀ ids, responseJson.staleDevices = some (.devices ids) → ids = []

/-- The service refuses the devices and does not say which. -/
def RequestResult.OmitsDevices : RequestResult → Prop
  | .succeeded _ | .udAuthFailed => False
  | .failed statusCode responseData _ =>
      statusCode = 409 ∧ OmitsMismatch responseData ∨ statusCode = 410 ∧ OmitsStale responseData

namespace AttemptEnvironment

variable (environment : AttemptEnvironment) (messageSend : OWSMessageSend)

/-- There are device messages to submit. -/
def Submits : Prop :=
  ∃ deviceMessages, environment.deviceMessages = .ok deviceMessages ∧
    environment.skips messageSend deviceMessages = false

/-- The attempt goes wrong: the app is locked, and there is another completion than the
rotation's or something to submit; or the service does not say which devices to
repair. -/
def Slips : (remainingAttempts : ℕ) → Prop
  | 0 =>
      environment.isAppLockedDueToPreKeyUpdateFailures = true ∧
        environment.rotateSignedPreKey ≠ .never
  | _ + 1 =>
      environment.isAppLockedDueToPreKeyUpdateFailures = true ∧
          (environment.rotateSignedPreKey ≠ .never ∨ environment.Submits messageSend) ∨
        environment.Submits messageSend ∧ (environment.makeRequest messageSend).1.OmitsDevices

end AttemptEnvironment

section Completion

variable {remainingAttempts : ℕ} {calls : List SendCall}

/-- A submission takes up an attempt that found the app unlocked. -/
theorem completesOnce_submission {isAppLocked : Bool} :
    CompletesOnce (remainingAttempts + 1) (.submission isAppLocked :: calls) ↔
      isAppLocked = false ∧ CompletesOnce remainingAttempts calls := by
  constructor
  · intro h
    have hunlocked := h.unlocked
    rw [List.mem_cons, not_or] at hunlocked
    refine ⟨by cases isAppLocked <;> simp_all, ?_, fun hmem => h.hasError (.tail _ hmem), ?_,
      hunlocked.2⟩
    · simpa [SendCall.completes] using h.once
    · have hle := h.submissions_le
      rw [List.countP_cons_of_pos rfl] at hle
      omega
  · rintro ⟨rfl, h⟩
    refine ⟨?_, ?_, ?_, ?_⟩
    · simpa [SendCall.completes] using h.once
    · simpa using h.hasError
    · rw [List.countP_cons_of_pos rfl]
      exact Nat.succ_le_succ h.submissions_le
    · simpa using h.unlocked

/-- More attempts than were used make no difference. -/
theorem CompletesOnce.mono {fewer : ℕ} (h : CompletesOnce fewer calls)
    (hle : fewer ≤ remainingAttempts) : CompletesOnce remainingAttempts calls :=
  { h with submissions_le := by have := h.submissions_le; omega }

theorem CompletesOnce.of_noSubmission (h : CompletesOnce remainingAttempts calls)
    (hnone : calls.countP SendCall.isSubmission = 0) : CompletesOnce 0 calls :=
  { h with submissions_le := by omega }

/-- A single call of `failure` is as it is to be if it has an error. -/
theorem completesOnce_failure {error : Option SendError} :
    CompletesOnce 0 [.failure error] ↔ error.isSome = true := by
  constructor
  · intro h
    rw [Option.isSome_iff_ne_none]
    rintro rfl
    exact h.hasError (.head _)
  · intro hsome
    obtain ⟨error, rfl⟩ := Option.isSome_iff_exists.mp hsome
    constructor <;> simp [SendCall.completes, SendCall.isSubmission]

end Completion

/-! ### What one attempt comes to -/

/-- What is to be done leads to a completion with an error, or to another attempt. -/
def FailureVerdict.leadsOn : FailureVerdict → Bool
  | .fails error => error.isSome
  | .unregistered | .retries => true
  | .stalls | .raises => false

theorem leadsOn_handleMismatchedDevices {responseJson : ResponseJson} :
    (handleMismatchedDevices responseJson).leadsOn = true ↔
      responseJson.missingDevices ≠ some .other ∧ responseJson.extraDevices ≠ some .other := by
  obtain ⟨code, extraDevices, missingDevices, staleDevices⟩ := responseJson
  rcases missingDevices with _ | ⟨_ | _⟩ <;> rcases extraDevices with _ | ⟨_ | _⟩ <;>
    simp [handleMismatchedDevices, DeviceListJson.count, FailureVerdict.leadsOn]

theorem leadsOn_handleStaleDevices {responseJson : ResponseJson} :
    (handleStaleDevices responseJson).leadsOn = true ↔
      ∃ ids, responseJson.staleDevices = some (.devices ids) ∧ ids ≠ [] := by
  obtain ⟨code, extraDevices, missingDevices, staleDevices⟩ := responseJson
  rcases staleDevices with _ | ⟨ids | _⟩
  · simp [handleStaleDevices, DeviceListJson.count, FailureVerdict.leadsOn]
  · cases ids <;> simp [handleStaleDevices, DeviceListJson.count, FailureVerdict.leadsOn]
  · simp [handleStaleDevices, DeviceListJson.count, FailureVerdict.leadsOn]

/-- A failed request leads on unless the service does not say which devices it means. -/
theorem leadsOn_messageSendDidFail {statusCode : ℤ} {responseData : Option ResponseData}
    {isRetryable : Bool} :
    (messageSendDidFail statusCode responseData).leadsOn = true ↔
      ¬(RequestResult.failed statusCode responseData isRetryable).OmitsDevices := by
  unfold messageSendDidFail
  split_ifs with h401 h404 h409 h410
  · simp [RequestResult.OmitsDevices, FailureVerdict.leadsOn, h401]
  · simp [RequestResult.OmitsDevices, FailureVerdict.leadsOn, h404]
  · rcases responseData with _ | _ | _ | responseJson
    · simp [RequestResult.OmitsDevices, FailureVerdict.leadsOn, h409, OmitsMismatch]
    · simp [RequestResult.OmitsDevices, FailureVerdict.leadsOn, h409, OmitsMismatch]
    · simp [RequestResult.OmitsDevices, FailureVerdict.leadsOn, h409, OmitsMismatch]
    · by_cases hcode : responseJson.code = some 404
      · simp [RequestResult.OmitsDevices, FailureVerdict.leadsOn, h409, OmitsMismatch, hcode]
      · simp [RequestResult.OmitsDevices, h409, OmitsMismatch, hcode,
          leadsOn_handleMismatchedDevices]
  · rcases responseData with _ | _ | _ | responseJson
    · simp [RequestResult.OmitsDevices, FailureVerdict.leadsOn, h410, OmitsStale]
    · simp [RequestResult.OmitsDevices, FailureVerdict.leadsOn, h410, OmitsStale]
    · simp [RequestResult.OmitsDevices, FailureVerdict.leadsOn, h410, OmitsStale]
    · simp [RequestResult.OmitsDevices, h410, OmitsStale, leadsOn_handleStaleDevices]
  · simp [RequestResult.OmitsDevices, FailureVerdict.leadsOn, h409, h410]

namespace AttemptEnvironment

variable {environment : AttemptEnvironment} {messageSend : OWSMessageSend} {remainingAttempts : ℕ}
  {calls : List SendCall}

inductive OutcomeCase (environment : AttemptEnvironment) (messageSend : OWSMessageSend) :
    AttemptOutcome → Prop
  | notSubmitted {calls : List SendCall} (nothing : ¬environment.Submits messageSend)
      (completes : CompletesOnce 0 calls) :
      OutcomeCase environment messageSend (.notSubmitted calls)
  | submitted {calls : List SendCall} (submits : environment.Submits messageSend)
      (noSubmission : calls.countP SendCall.isSubmission = 0)
      (completes_iff :
        CompletesOnce 0 calls ↔ ¬(environment.makeRequest messageSend).1.OmitsDevices) :
      OutcomeCase environment messageSend (.submitted calls)
  | retried {responseError : SendError} {retried : OWSMessageSend}
      (submits : environment.Submits messageSend)
      (saysWhich : ¬(environment.makeRequest messageSend).1.OmitsDevices) :
      OutcomeCase environment messageSend (.retried responseError retried)

theorem didFail_case {sent : OWSMessageSend} {statusCode : ℤ} {responseData : Option ResponseData}
    {isRetryable : Bool} {error : SendError} (submits : environment.Submits messageSend)
    (hresult : (environment.makeRequest messageSend).1.OmitsDevices ↔
      (RequestResult.failed statusCode responseData isRetryable).OmitsDevices) :
    OutcomeCase environment messageSend (didFail sent statusCode responseData error) := by
  have hleads := @leadsOn_messageSendDidFail statusCode responseData isRetryable
  rw [← hresult] at hleads
  rw [didFail]
  cases hverdict : messageSendDidFail statusCode responseData with
  | fails error =>
      rw [hverdict] at hleads
      exact .submitted submits rfl (completesOnce_failure.trans hleads)
  | unregistered =>
      rw [hverdict] at hleads
      exact .submitted submits rfl (iff_of_true (by constructor <;> decide) (hleads.mp rfl))
  | retries =>
      rw [hverdict] at hleads
      exact .retried submits (hleads.mp rfl)
  | stalls | raises =>
      rw [hverdict] at hleads
      refine .submitted submits rfl (iff_of_false ?_ ?_)
      · intro h
        exact absurd h.once (by decide)
      · rw [← hleads]
        decide

theorem outcome_case (environment : AttemptEnvironment) (messageSend : OWSMessageSend) :
    OutcomeCase environment messageSend (environment.attempt messageSend) := by
  rw [attempt]
  cases hbuilt : environment.deviceMessages with
  | error exception =>
      have hnothing : ¬environment.Submits messageSend := by
        rintro ⟨deviceMessages, hok, -⟩
        rw [hbuilt] at hok
        cases hok
      exact .notSubmitted hnothing (completesOnce_failure.mpr rfl)
  | ok deviceMessages =>
      dsimp only
      by_cases hskips : environment.skips messageSend deviceMessages = true
      · have hnothing : ¬environment.Submits messageSend := by
          rintro ⟨deviceMessages', hok, hskips'⟩
          rw [hbuilt] at hok
          cases hok
          exact absurd hskips (by simp [hskips'])
        rw [if_pos hskips]
        exact .notSubmitted hnothing (by constructor <;> decide)
      · have submits : environment.Submits messageSend :=
          ⟨deviceMessages, hbuilt, by simpa using hskips⟩
        rw [if_neg hskips]
        cases hresult : (environment.makeRequest messageSend).1 with
        | succeeded wasSentByUD =>
            refine .submitted submits rfl (iff_of_true ?_ ?_)
            · constructor <;> simp [SendCall.completes, SendCall.isSubmission]
            · rw [hresult]
              exact id
        | udAuthFailed =>
            refine @didFail_case _ _ _ _ _ true _ submits ?_
            rw [hresult]
            simp [RequestResult.OmitsDevices]
        | failed statusCode responseData isRetryable =>
            refine @didFail_case _ _ _ _ _ isRetryable _ submits ?_
            rw [hresult]

/-! ### The rotation -/

theorem rotationCalls_of_unlocked
    (unlocked : environment.isAppLockedDueToPreKeyUpdateFailures = false) :
    environment.rotationCalls = [] := by
  simp [rotationCalls, unlocked]

/-- The rotation of a locked app adds a completion, if it is ever answered. -/
theorem completesOnce_rotationCalls_append
    (locked : environment.isAppLockedDueToPreKeyUpdateFailures = true)
    (h : CompletesOnce remainingAttempts calls) :
    CompletesOnce remainingAttempts (environment.rotationCalls ++ calls) ↔
      environment.rotateSignedPreKey = .never := by
  rw [rotationCalls, if_pos locked]
  cases environment.rotateSignedPreKey with
  | never =>
      refine iff_of_true ⟨?_, ?_, ?_, ?_⟩ rfl
      · simpa [SendCall.completes] using h.once
      · simpa using h.hasError
      · simpa [SendCall.isSubmission] using h.submissions_le
      · simpa using h.unlocked
  | success | failure isRetryable =>
      refine iff_of_false (fun h' => ?_) nofun
      have htwo := h'.once
      rw [List.singleton_append, List.countP_cons_of_pos rfl, h.once] at htwo
      cases htwo

theorem completesOnce_rotationCalls_submission :
    CompletesOnce (remainingAttempts + 1)
        (environment.rotationCalls ++
          .submission environment.isAppLockedDueToPreKeyUpdateFailures :: calls) ↔
      environment.isAppLockedDueToPreKeyUpdateFailures = false ∧
        CompletesOnce remainingAttempts calls := by
  cases hlocked : environment.isAppLockedDueToPreKeyUpdateFailures with
  | false =>
      rw [rotationCalls_of_unlocked hlocked, List.nil_append]
      exact completesOnce_submission
  | true =>
      refine iff_of_false (fun h => ?_) (fun h => by cases h.1)
      exact h.unlocked (List.mem_append_right _ (.head _))

theorem slips_of_submits (submits : environment.Submits messageSend) :
    environment.Slips messageSend (remainingAttempts + 1) ↔
      environment.isAppLockedDueToPreKeyUpdateFailures = true ∨
        (environment.makeRequest messageSend).1.OmitsDevices := by
  simp [Slips, submits]

theorem slips_of_nothing (nothing : ¬environment.Submits messageSend) :
    environment.Slips messageSend (remainingAttempts + 1) ↔
      environment.isAppLockedDueToPreKeyUpdateFailures = true ∧
        environment.rotateSignedPreKey ≠ .never := by
  simp [Slips, nothing]

/-- With nothing to submit, the rotation of a locked app is a completion too many. -/
theorem completesOnce_rotationCalls_iff (h : CompletesOnce remainingAttempts calls) :
    CompletesOnce remainingAttempts (environment.rotationCalls ++ calls) ↔
      ¬(environment.isAppLockedDueToPreKeyUpdateFailures = true ∧
        environment.rotateSignedPreKey ≠ .never) := by
  cases hlocked : environment.isAppLockedDueToPreKeyUpdateFailures with
  | false =>
      rw [rotationCalls_of_unlocked hlocked, List.nil_append]
      simp [h]
  | true =>
      rw [completesOnce_rotationCalls_append hlocked h]
      simp

end AttemptEnvironment

/-! ### The attempts in turn -/

section Attempts

open AttemptEnvironment

variable {environment : ℕ → AttemptEnvironment} {remainingAttempts number : ℕ}
  {messageSend : OWSMessageSend} {P : ℕ → ℕ → OWSMessageSend → Prop}

/-- The only attempt is the first where it does not come to a retry. -/
theorem forall_reaches_of_last
    (last : remainingAttempts ≤ 1 ∨
      ∀ responseError retried, (environment number).attempt messageSend ≠
        .retried responseError retried) :
    (∀ remaining' number' messageSend',
      Reaches environment remainingAttempts number messageSend remaining' number' messageSend' →
        P remaining' number' messageSend') ↔ P remainingAttempts number messageSend := by
  constructor
  · intro h
    exact h _ _ _ .here
  · rintro h _ _ _ (_ | ⟨retries, -⟩)
    · exact h
    · rcases last with hle | hne
      · omega
      · exact absurd retries (hne _ _)

/-- A retry makes the attempts that are left. -/
theorem forall_reaches_of_retried {responseError : SendError} {retried : OWSMessageSend}
    (retries : (environment number).attempt messageSend = .retried responseError retried) :
    (∀ remaining' number' messageSend',
      Reaches environment (remainingAttempts + 2) number messageSend remaining' number'
        messageSend' → P remaining' number' messageSend') ↔
      P (remainingAttempts + 2) number messageSend ∧
        ∀ remaining' number' messageSend',
          Reaches environment (remainingAttempts + 1) (number + 1) retried remaining' number'
            messageSend' → P remaining' number' messageSend' := by
  constructor
  · intro h
    exact ⟨h _ _ _ .here, fun _ _ _ later => h _ _ _ (.retrySend retries later)⟩
  · rintro ⟨hhere, hlater⟩ _ _ _ (_ | ⟨retries', later⟩)
    · exact hhere
    · rw [retries] at retries'
      cases retries'
      exact hlater _ _ _ later

/-- **One completion for each recipient send.** -/
theorem completesOnce_iff (environment : ℕ → AttemptEnvironment) (remainingAttempts number : ℕ)
    (messageSend : OWSMessageSend) :
    CompletesOnce remainingAttempts
        (sendMessageToRecipient environment remainingAttempts number messageSend) ↔
      ∀ remaining' number' messageSend',
        Reaches environment remainingAttempts number messageSend remaining' number' messageSend' →
          ¬(environment number').Slips messageSend' remaining' := by
  -- By induction on the attempts that remain: the last one decides, and a retry goes on with fewer.
  induction remainingAttempts generalizing number messageSend with
  | zero =>
      rw [forall_reaches_of_last (.inl (Nat.zero_le 1)), sendMessageToRecipient, Slips]
      exact completesOnce_rotationCalls_iff (completesOnce_failure.mpr rfl)
  | succ remainingAttempts ih =>
      rw [sendMessageToRecipient]
      have hcase := outcome_case (environment number) messageSend
      cases houtcome : (environment number).attempt messageSend with
      | notSubmitted calls =>
          rw [houtcome] at hcase
          obtain ⟨nothing, completes⟩ := hcase
          rw [forall_reaches_of_last (.inr (by simp [houtcome])), slips_of_nothing nothing]
          exact completesOnce_rotationCalls_iff (completes.mono (Nat.zero_le _))
      | submitted calls =>
          rw [houtcome] at hcase
          obtain _ | ⟨submits, noSubmission, completes_iff⟩ := hcase
          have hcalls : CompletesOnce remainingAttempts calls ↔ CompletesOnce 0 calls :=
            ⟨(·.of_noSubmission noSubmission), (·.mono (Nat.zero_le _))⟩
          rw [forall_reaches_of_last (.inr (by simp [houtcome])), slips_of_submits submits,
            completesOnce_rotationCalls_submission, hcalls, completes_iff, not_or,
            Bool.not_eq_true]
      | retried responseError retried =>
          rw [houtcome] at hcase
          obtain _ | _ | ⟨submits, saysWhich⟩ := hcase
          rw [completesOnce_rotationCalls_submission]
          cases remainingAttempts with
          | zero =>
              have hfails : CompletesOnce 0 [.failure (some responseError)] :=
                completesOnce_failure.mpr rfl
              rw [forall_reaches_of_last (.inl (Nat.le_refl 1)), slips_of_submits submits]
              simp [saysWhich, hfails]
          | succ remainingAttempts =>
              rw [forall_reaches_of_retried houtcome, slips_of_submits submits,
                if_neg (Nat.not_succ_le_zero _), ih]
              simp only [saysWhich, or_false, Bool.not_eq_true]

end Attempts

/-! ## What a send may call -/

inductive Ending : List SendCall → Prop
  | failure {error : Option SendError}
      (counts : ∀ sendError, error = some sendError → sendError.shouldBeIgnoredForGroups = false) :
      Ending [.failure error]
  | unregistered : Ending [.unregisteredRecipient, .failure (some .unregisteredRecipient)]
  | skipped : Ending [.updateWithSkippedRecipient, .success]
  | sent (wasSentByUD : Bool) : Ending [.updateWithSentRecipient wasSentByUD, .success]
  | stalls : Ending []
  | raises : Ending [.exception]

/-- The calls of a send: submissions, and rotations if it `rotates`, and then those
that its last attempt ends with. -/
inductive SendTrace (rotates : Prop) : List SendCall → Prop
  | ending {calls : List SendCall} (ending : Ending calls) : SendTrace rotates calls
  | submission {isAppLocked : Bool} {calls : List SendCall} (later : SendTrace rotates calls) :
      SendTrace rotates (.submission isAppLocked :: calls)
  | rotation {failure : Option SendError} {calls : List SendCall} (mayRotate : rotates)
      (counts : ∀ error, failure = some error → error.shouldBeIgnoredForGroups = false)
      (later : SendTrace rotates calls) : SendTrace rotates (.rotateSignedPreKey failure :: calls)

namespace AttemptEnvironment

inductive EndsOrRetries : AttemptOutcome → Prop
  | notSubmitted {calls : List SendCall} (ending : Ending calls) :
      EndsOrRetries (.notSubmitted calls)
  | submitted {calls : List SendCall} (ending : Ending calls) : EndsOrRetries (.submitted calls)
  | retried {responseError : SendError} {retried : OWSMessageSend}
      (counts : responseError.shouldBeIgnoredForGroups = false) :
      EndsOrRetries (.retried responseError retried)

/-- The switch makes no error that groups ignore. -/
theorem counts_of_fails {statusCode : ℤ} {responseData : Option ResponseData}
    {error : Option SendError} (h : messageSendDidFail statusCode responseData = .fails error) :
    ∀ sendError, error = some sendError → sendError.shouldBeIgnoredForGroups = false := by
  rintro sendError rfl
  unfold messageSendDidFail at h
  split_ifs at h with h401 h404 h409 h410
  · cases h
    rfl
  · rcases responseData with _ | _ | _ | responseJson
    · cases h
    · cases h
      rfl
    · cases h
    · dsimp only at h
      rw [handleMismatchedDevices] at h
      split_ifs at h
      split at h <;> cases h
  · rcases responseData with _ | _ | _ | responseJson
    · cases h
      rfl
    · cases h
      rfl
    · cases h
    · dsimp only at h
      rw [handleStaleDevices] at h
      split at h
      · cases h
      · split_ifs at h

theorem endsOrRetries_didFail {messageSend : OWSMessageSend} {statusCode : ℤ}
    {responseData : Option ResponseData} {error : SendError}
    (counts : error.shouldBeIgnoredForGroups = false) :
    EndsOrRetries (didFail messageSend statusCode responseData error) := by
  rw [didFail]
  cases hverdict : messageSendDidFail statusCode responseData with
  | fails error => exact .submitted (.failure (counts_of_fails hverdict))
  | unregistered => exact .submitted .unregistered
  | retries => exact .retried counts
  | stalls => exact .submitted .stalls
  | raises => exact .submitted .raises

theorem endsOrRetries_attempt (environment : AttemptEnvironment) (messageSend : OWSMessageSend) :
    EndsOrRetries (environment.attempt messageSend) := by
  rw [attempt]
  cases environment.deviceMessages with
  | error exception =>
      refine .notSubmitted (.failure ?_)
      rintro sendError ⟨⟩
      cases exception <;> rfl
  | ok deviceMessages =>
      dsimp only
      by_cases hskips : environment.skips messageSend deviceMessages = true
      · rw [if_pos hskips]
        exact .notSubmitted .skipped
      · rw [if_neg hskips]
        cases (environment.makeRequest messageSend).1 with
        | succeeded wasSentByUD => exact .submitted (.sent wasSentByUD)
        | udAuthFailed => exact endsOrRetries_didFail rfl
        | failed statusCode responseData isRetryable => exact endsOrRetries_didFail rfl

theorem sendTrace_rotationCalls_append {environment : AttemptEnvironment} {rotates : Prop}
    {calls : List SendCall}
    (mayRotate : environment.isAppLockedDueToPreKeyUpdateFailures = true → rotates)
    (later : SendTrace rotates calls) : SendTrace rotates (environment.rotationCalls ++ calls) := by
  rw [rotationCalls]
  split_ifs with hlocked
  · refine .rotation (mayRotate hlocked) ?_ later
    rintro error herror
    cases hanswer : environment.rotateSignedPreKey <;> rw [hanswer] at herror <;> cases herror <;>
      rfl
  · exact later

end AttemptEnvironment

theorem sendTrace_sendMessageToRecipient {environment : ℕ → AttemptEnvironment}
    {remainingAttempts number : ℕ} {messageSend : OWSMessageSend} {rotates : Prop}
    (mayRotate : ∀ remaining' number' messageSend',
      Reaches environment remainingAttempts number messageSend remaining' number' messageSend' →
        (environment number').isAppLockedDueToPreKeyUpdateFailures = true → rotates) :
    SendTrace rotates
      (sendMessageToRecipient environment remainingAttempts number messageSend) := by
  induction remainingAttempts generalizing number messageSend with
  | zero =>
      rw [sendMessageToRecipient]
      refine AttemptEnvironment.sendTrace_rotationCalls_append (mayRotate _ _ _ .here)
        (.ending (.failure ?_))
      rintro error ⟨⟩
      rfl
  | succ remainingAttempts ih =>
      rw [sendMessageToRecipient]
      refine AttemptEnvironment.sendTrace_rotationCalls_append (mayRotate _ _ _ .here) ?_
      have hends := (environment number).endsOrRetries_attempt messageSend
      cases houtcome : (environment number).attempt messageSend with
      | notSubmitted calls =>
          rw [houtcome] at hends
          obtain ⟨hending⟩ := hends
          exact .ending hending
      | submitted calls =>
          rw [houtcome] at hends
          obtain _ | hending := hends
          exact .submission (.ending hending)
      | retried responseError retried =>
          rw [houtcome] at hends
          obtain _ | _ | hcounts := hends
          refine .submission ?_
          cases remainingAttempts with
          | zero =>
              refine .ending (.failure ?_)
              rintro error ⟨⟩
              exact hcounts
          | succ remainingAttempts =>
              rw [if_neg (Nat.not_succ_le_zero _)]
              exact ih fun _ _ _ later => mayRotate _ _ _ (.retrySend houtcome later)

theorem SendTrace.completes_le {calls : List SendCall} (h : SendTrace False calls) :
    calls.countP SendCall.completes ≤ 1 := by
  induction h with
  | ending ending => cases ending <;> simp [SendCall.completes]
  | submission later ih => simpa [SendCall.completes] using ih
  | rotation mayRotate => exact mayRotate.elim

/-- A send by REST and basic auth, with the answer it gets. -/
def restAttempt (isAppLocked : Bool) (response : ServiceResponse) : AttemptEnvironment where
  isAppLockedDueToPreKeyUpdateFailures := isAppLocked
  rotateSignedPreKey := .failure true
  deviceMessages := .ok [⟨some "+15550002", some OWSDevicePrimaryDeviceId⟩]
  mayHaveLinkedDevices := false
  canMakeWebsocketRequests := fun _ => false
  service := fun _ _ => response

/-- The send to another account. -/
def sendToContact : OWSMessageSend where
  recipientId := "+15550002"
  localNumber := "+15550001"
  isSyncMessage := false
  isSentMessageTranscript := false
  hasUDAccess := false

theorem attempt_restAttempt (isAppLocked : Bool) (response : ServiceResponse) :
    (restAttempt isAppLocked response).attempt sendToContact =
      match response with
      | .success => .submitted [.updateWithSentRecipient false, .success]
      | .failure statusCode responseData isRetryable =>
          AttemptEnvironment.didFail sendToContact statusCode responseData
            (.ofCode .other isRetryable) := by
  cases response <;>
    simp [AttemptEnvironment.attempt, AttemptEnvironment.makeRequest,
      AttemptEnvironment.makeRequestInternal, AttemptEnvironment.skips,
      AttemptEnvironment.prepared, OWSMessageSend.isLocalNumber, restAttempt, sendToContact]

/-- A locked app submits, and completes twice; a 409 without a body gets a failure
without an error; and after a 410 that names no device nothing is called. -/
theorem sends_that_go_wrong :
    (sendMessageToRecipient (fun _ => restAttempt true .success) kMaxRetriesPerRecipient 0
        sendToContact =
      [.rotateSignedPreKey (some (.ofCode .other true)), .submission true,
        .updateWithSentRecipient false, .success]) ∧
    (sendMessageToRecipient (fun _ => restAttempt false (.failure 409 none true))
        kMaxRetriesPerRecipient 0 sendToContact = [.submission false, .failure none]) ∧
    (sendMessageToRecipient
        (fun _ =>
          restAttempt false (.failure 410 (some (.dictionary ⟨none, none, none, none⟩)) true))
        kMaxRetriesPerRecipient 0 sendToContact = [.submission false]) ∧
    ¬∀ environment remainingAttempts messageSend,
      CompletesOnce remainingAttempts
        (sendMessageToRecipient environment remainingAttempts 0 messageSend) := by
  have hlocked : sendMessageToRecipient (fun _ => restAttempt true .success)
      kMaxRetriesPerRecipient 0 sendToContact =
        [.rotateSignedPreKey (some (.ofCode .other true)), .submission true,
          .updateWithSentRecipient false, .success] := by
    rw [kMaxRetriesPerRecipient, sendMessageToRecipient, attempt_restAttempt]
    rfl
  refine ⟨hlocked, ?_, ?_, ?_⟩
  · rw [kMaxRetriesPerRecipient, sendMessageToRecipient, attempt_restAttempt]
    rfl
  · rw [kMaxRetriesPerRecipient, sendMessageToRecipient, attempt_restAttempt]
    rfl
  · intro h
    have hunlocked := (h (fun _ => restAttempt true .success) kMaxRetriesPerRecipient
      sendToContact).unlocked
    rw [hlocked] at hunlocked
    exact hunlocked (by decide)

end ObjcSwiftLearning.SignalServiceKit
