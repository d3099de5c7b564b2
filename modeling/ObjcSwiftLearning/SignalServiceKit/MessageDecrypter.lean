import ObjcSwiftLearning.AxolotlKit.SessionCipher

/-!
# `OWSMessageDecrypter`

An envelope comes in, and one of two blocks of the caller is called: the success
block with the decrypted result, or the failure block.  The calls made are part
of the state (`Delivery.calls`).  An exception is processed before the failure
block is called; what is raised then is caught by nobody.

A block handed to a queue or to an asynchronous transaction runs when it is
handed over; what may happen to the stores in between is in the quantifier over
the world.  The caller's blocks do not raise.  The `NSError` an inner failure
block receives is only logged, and is left out.

* `SMKSecretSessionCipher` — the sealed-sender decryption, a parameter.
* `verdict` — what becomes of a result, as a value: the checks of the block
  `decryptEnvelope` wraps around the caller's success block.
* `run_decryptEnvelope` — **exactly one call**: where `decryptEnvelope` returns, it
  has made one call, of the failure block or on a verdict.
* `returns_decryptEnvelope`, `calls_of_isUnreported` — when it returns.
-/

namespace ObjcSwiftLearning.SignalServiceKit

open AxolotlKit Procedure

/-! ## Envelopes and results -/

inductive SSKProtoEnvelopeType where
  | unknown
  | ciphertext
  | keyExchange
  | prekeyBundle
  | receipt
  | unidentifiedSender
  deriving DecidableEq, Repr

structure SSKProtoEnvelope where
  type : SSKProtoEnvelopeType
  timestamp : UInt64
  source : Option String
  sourceDevice : Option UInt32
  relay : Option String
  legacyMessage : Option NSData
  content : Option NSData
  serverGuid : Option String
  serverTimestamp : Option UInt64

structure OWSMessageDecryptResult where
  envelopeData : NSData
  plaintextData : Option NSData
  source : Option String
  sourceDevice : UInt32
  isUDMessage : Bool

inductive BlockCall where
  | success (result : OWSMessageDecryptResult)
  | failure

/-- The stores, and the calls made so far. -/
structure Delivery where
  world : World
  calls : List BlockCall

/-! ## What the decrypter is built on -/

/-- `SMKDecryptResult`; its message type only decides on a prekey check. -/
structure SMKDecryptResult where
  senderRecipientId : String
  senderDeviceId : Int64
  paddedPayload : NSData

/-- `SMKSecretSessionCipher`: it answers `nil` with an `NSError`, a message sent
by ourselves among them, or the exception it wrapped is raised again. -/
structure SMKSecretSessionCipher where
  decryptMessage : (cipherTextData : NSData) → (timestamp : UInt64) →
    (localRecipientId : Option String) → (localDeviceId : UInt32) →
    Procedure Failure World (Option SMKDecryptResult)

/-- `OWSMessageDecrypter`, with what it asks its environment for. -/
structure OWSMessageDecrypter where
  blockedPhoneNumbers : List String
  /-- The class `\d` of `NSRegularExpression`. -/
  isDecimalDigit : Char → Bool
  /-- `none` when it cannot be created. -/
  secretSessionCipher : Option SMKSecretSessionCipher
  buildSerializedData : SSKProtoEnvelope → Option NSData

def owsDevicePrimaryDeviceId : UInt32 := 1

/-- `+[TSContactThread threadIdFromContactId:]`; a string cannot be appended that is `nil`. -/
def threadIdFromContactId : Option String → Except Failure String
  | some contactId => .ok ("c" ++ contactId)
  | none => .error (exception .invalidArgumentException "stringByAppendingString: nil argument")

inductive TSErrorMessageType where
  | noSession
  | wrongTrustedIdentityKey
  | invalidKeyException
  | missingKeyId
  | invalidMessage
  | duplicateMessage
  | invalidVersion
  | nonBlockingIdentityChange
  | unknownContactBlockOffer
  | groupCreationFailed
  deriving DecidableEq

/-- A `TSErrorMessage`, as it is made for an envelope. -/
structure EnvelopeErrorMessage where
  uniqueThreadId : String
  timestamp : UInt64
  errorType : TSErrorMessageType

/-- `initWithEnvelope:withTransaction:failedMessageType:`. -/
def EnvelopeErrorMessage.initWithEnvelope (envelope : SSKProtoEnvelope)
    (errorType : TSErrorMessageType) : Except Failure EnvelopeErrorMessage := do
  let uniqueThreadId ← threadIdFromContactId envelope.source
  return { uniqueThreadId, timestamp := envelope.timestamp, errorType }

/-- `-[NSData removePadding]`: zero bytes back to the mark `0x80`, and the mark. -/
def removePadding (data : NSData) : NSData :=
  match data.reverse.dropWhile (· == 0x00) with
  | 0x80 :: rest => rest.reverse
  | _ => data

/-- What `$` accepts after the last character it matches. -/
def lineTerminators : List (List Char) :=
  [[], ['\n'], ['\r'], ['\r', '\n'], ['\u000b'], ['\u000c'], ['\u0085'], ['\u2028'], ['\u2029']]

namespace OWSMessageDecrypter

variable (P : Primitives) (decrypter : OWSMessageDecrypter)

/-- `-[NSString isValidE164]`: the first match of `^\+\d+$`. -/
def isValidE164 (source : String) : Bool :=
  match source.toList with
  | '+' :: rest =>
      !(rest.takeWhile decrypter.isDecimalDigit).isEmpty &&
        lineTerminators.contains (rest.dropWhile decrypter.isDecimalDigit)
  | _ => false

/-- `isEnvelopeSenderBlocked:`; no list contains `nil`. -/
def isEnvelopeSenderBlocked (envelope : SSKProtoEnvelope) : Bool :=
  match envelope.source with
  | some source => decrypter.blockedPhoneNumbers.contains source
  | none => false

/-! ## The blocks -/

/-- `failureBlock` of `decryptEnvelope:envelopeData:successBlock:failureBlock:`. -/
def failureBlock : Procedure Failure Delivery Unit :=
  modify fun delivery => { delivery with calls := delivery.calls ++ [.failure] }

def successBlockParameter (result : OWSMessageDecryptResult) :
    Procedure Failure Delivery Unit :=
  modify fun delivery => { delivery with calls := delivery.calls ++ [.success result] }

/-- `[result.source isEqualToString:localRecipientId] && result.sourceDevice ==
localDeviceId`. -/
def isSelfSent (localRecipientId : Option String) (result : OWSMessageDecryptResult) : Bool :=
  result.source.isSome && result.source == localRecipientId &&
    result.sourceDevice == owsDevicePrimaryDeviceId

/-- `successBlock` of `decryptEnvelope:envelopeData:successBlock:failureBlock:`. -/
def successBlock (envelope : SSKProtoEnvelope) (localRecipientId : Option String)
    (result : OWSMessageDecryptResult) : Procedure Failure Delivery Unit :=
  if decrypter.isEnvelopeSenderBlocked envelope then failureBlock
  else if isSelfSent localRecipientId result then failureBlock
  else successBlockParameter result

/-- `processException:envelope:`: the error message that is saved and notified of; none for
what is discarded, or notified of without a thread. -/
def processException (exception : NSException) (envelope : SSKProtoEnvelope) :
    Except Failure (Option EnvelopeErrorMessage) :=
  match exception.name with
  | .noSessionException => some <$> EnvelopeErrorMessage.initWithEnvelope envelope .noSession
  | .invalidKeyException | .invalidKeyIdException =>
      some <$> EnvelopeErrorMessage.initWithEnvelope envelope .invalidKeyException
  | .duplicateMessageException => .ok none
  | .invalidVersionException =>
      some <$> EnvelopeErrorMessage.initWithEnvelope envelope .invalidVersion
  | .untrustedIdentityKeyException => .ok none
  | _ =>
      if 0 < (envelope.source.getD "").length then
        some <$> EnvelopeErrorMessage.initWithEnvelope envelope .invalidMessage
      else .ok none

/-- `@catch (NSException *exception)`: the exception is processed, and the failure block
called. -/
def catchIntoFailureBlock (envelope : SSKProtoEnvelope) :
    Failure → Procedure Failure Delivery Unit
  | .raised exception => do
      let _ ← lift (processException exception envelope)
      failureBlock
  | .terminated assertion => raise (.terminated assertion)

/-- Run a procedure of the kit. -/
def inWorld {α : Type} (p : Procedure Failure World α) : Procedure Failure Delivery α :=
  zoom (·.world) (fun world delivery => { delivery with world }) p

/-! ## Decryption -/

/-- `decryptEnvelope:envelopeData:cipherTypeName:cipherMessageBlock:successBlock:failureBlock:`. -/
def decryptEnvelopeWithCipher (envelope : SSKProtoEnvelope) (envelopeData : NSData)
    (localRecipientId : Option String)
    (cipherMessageBlock : NSData → Except Failure CipherMessage) :
    Procedure Failure Delivery Unit :=
  match envelope.content <|> envelope.legacyMessage with
  | none => failureBlock
  | some encryptedData => handle (catchIntoFailureBlock envelope) do
      let cipherMessage ← lift (cipherMessageBlock encryptedData)
      let recipientId ← lift (assertNonNil "recipientId" envelope.source)
      let cipher := SessionCipher.initWithSessionStore .primaryStorage recipientId
        (envelope.sourceDevice.getD 0).toInt32
      let plaintext ← inWorld (cipher.throwsDecrypt P cipherMessage)
      decrypter.successBlock envelope localRecipientId {
        envelopeData
        plaintextData := some (removePadding plaintext)
        source := envelope.source
        sourceDevice := envelope.sourceDevice.getD 0
        isUDMessage := false }

/-- `throws_decryptSecureMessage:envelopeData:successBlock:failureBlock:`. -/
def throwsDecryptSecureMessage (envelope : SSKProtoEnvelope) (envelopeData : NSData)
    (localRecipientId : Option String) : Procedure Failure Delivery Unit :=
  decrypter.decryptEnvelopeWithCipher P envelope envelopeData localRecipientId fun encryptedData =>
    .whisper <$> WhisperMessage.throwsInitWithData P encryptedData

/-- `throws_decryptPreKeyBundle:envelopeData:successBlock:failureBlock:`. -/
def throwsDecryptPreKeyBundle (envelope : SSKProtoEnvelope) (envelopeData : NSData)
    (localRecipientId : Option String) : Procedure Failure Delivery Unit :=
  decrypter.decryptEnvelopeWithCipher P envelope envelopeData localRecipientId fun encryptedData =>
    .prekey <$> PreKeyWhisperMessage.throwsInitWithData P encryptedData

/-- The checks on a decrypted unidentified-sender message, and the result made of
it; `none` where the failure block is called. -/
def unidentifiedSenderResult (envelope : SSKProtoEnvelope) (decryptResult : SMKDecryptResult) :
    Option OWSMessageDecryptResult :=
  let source := decryptResult.senderRecipientId
  let sourceDeviceId := decryptResult.senderDeviceId.toInt
  if source.length < 1 || !decrypter.isValidE164 source then none
  else if sourceDeviceId < 1 || 4294967295 < sourceDeviceId then none
  else do
    let newEnvelopeData ← decrypter.buildSerializedData { envelope with
      source := some source
      sourceDevice := some (.ofNat sourceDeviceId.toNat) }
    return {
      envelopeData := newEnvelopeData
      plaintextData := some (removePadding decryptResult.paddedPayload)
      source := some source
      sourceDevice := .ofNat sourceDeviceId.toNat
      isUDMessage := true }

/-- `decryptUnidentifiedSender:successBlock:failureBlock:`. -/
def decryptUnidentifiedSender (envelope : SSKProtoEnvelope)
    (localRecipientId : Option String) : Procedure Failure Delivery Unit :=
  match envelope.content, envelope.serverTimestamp with
  | some encryptedData, some serverTimestamp => handle (catchIntoFailureBlock envelope) do
      match decrypter.secretSessionCipher with
      | none => failureBlock
      | some cipher => do
          let decryptResult ← inWorld (cipher.decryptMessage encryptedData serverTimestamp
            localRecipientId owsDevicePrimaryDeviceId)
          match decryptResult.bind (decrypter.unidentifiedSenderResult envelope) with
          | none => failureBlock
          | some result => decrypter.successBlock envelope localRecipientId result
  | _, _ => failureBlock

/-- Whether `decryptEnvelope` turns the envelope away before it looks at its
content: for all but unidentified senders, the source must be valid and not
blocked. -/
def turnsAway (envelope : SSKProtoEnvelope) : Bool :=
  envelope.type != .unidentifiedSender &&
    (!envelope.source.any (fun source => !decide (source.length < 1) &&
        decrypter.isValidE164 source) ||
      !envelope.sourceDevice.any (fun sourceDevice => !decide (sourceDevice < 1)) ||
      decrypter.isEnvelopeSenderBlocked envelope)

/-- `decryptEnvelope:envelopeData:successBlock:failureBlock:`. -/
def decryptEnvelope (envelope : SSKProtoEnvelope) (envelopeData : NSData) :
    Procedure Failure Delivery Unit := do
  let delivery ← read
  let localRecipientId := delivery.world.stores.localNumber
  if decrypter.turnsAway envelope then failureBlock
  else match envelope.type with
    | .ciphertext =>
        decrypter.throwsDecryptSecureMessage P envelope envelopeData localRecipientId
    | .prekeyBundle =>
        decrypter.throwsDecryptPreKeyBundle P envelope envelopeData localRecipientId
    -- What has nothing to decrypt is handed over as it is.
    | .receipt | .keyExchange | .unknown =>
        decrypter.successBlock envelope localRecipientId {
          envelopeData
          plaintextData := none
          source := envelope.source
          sourceDevice := envelope.sourceDevice.getD 0
          isUDMessage := false }
    | .unidentifiedSender => decrypter.decryptUnidentifiedSender envelope localRecipientId

/-! ## The one call -/

/-- What `successBlock` makes of a result. -/
def verdict (envelope : SSKProtoEnvelope) (localRecipientId : Option String)
    (result : OWSMessageDecryptResult) : BlockCall :=
  if decrypter.isEnvelopeSenderBlocked envelope then .failure
  else if isSelfSent localRecipientId result then .failure
  else .success result

/-- What the sealed-sender cipher answers, where it is asked. -/
def unsealed (envelope : SSKProtoEnvelope) (world : World) :
    Except Failure (Option SMKDecryptResult) :=
  match envelope.type, envelope.content, envelope.serverTimestamp,
      decrypter.secretSessionCipher with
  | .unidentifiedSender, some encryptedData, some serverTimestamp, some cipher =>
      ((cipher.decryptMessage encryptedData serverTimestamp world.stores.localNumber
        owsDevicePrimaryDeviceId).run world).1
  | _, _, _, _ => .ok none

def authenticated (envelope : SSKProtoEnvelope) (world : World) : Option SMKDecryptResult :=
  match decrypter.unsealed envelope world with
  | .ok decryptResult => decryptResult
  | .error _ => none

/-- The exceptions that an error message is made for in any case, in the sender's thread. -/
def threadExceptions : List ExceptionName :=
  [.noSessionException, .invalidKeyException, .invalidKeyIdException, .invalidVersionException]

/-- The cipher raises such an exception for an envelope that does not name its sender. -/
def IsUnreported (envelope : SSKProtoEnvelope) (world : World) : Prop :=
  envelope.source = none ∧ ∃ exception,
    decrypter.unsealed envelope world = .error (.raised exception) ∧
      exception.name ∈ threadExceptions

/-- The call `decryptEnvelope` makes. -/
inductive CallMade (envelope : SSKProtoEnvelope) (world : World) : BlockCall → Prop
  | failed
      (hnone : (decrypter.authenticated envelope world).bind
        (decrypter.unidentifiedSenderResult envelope) = none) :
      CallMade envelope world .failure
  | identified {result : OWSMessageDecryptResult}
      (hsource : result.source = envelope.source)
      (htype : envelope.type ≠ .unidentifiedSender)
      (hblocked : decrypter.isEnvelopeSenderBlocked envelope = false) :
      CallMade envelope world (decrypter.verdict envelope world.stores.localNumber result)
  | unidentified {decryptResult : SMKDecryptResult} {result : OWSMessageDecryptResult}
      (hauthenticated : decrypter.authenticated envelope world = some decryptResult)
      (hresult : decrypter.unidentifiedSenderResult envelope decryptResult = some result) :
      CallMade envelope world (decrypter.verdict envelope world.stores.localNumber result)

variable {P decrypter}

section Run

variable {envelope : SSKProtoEnvelope} {envelopeData : NSData} {world : World}
  {localRecipientId : Option String} {delivery delivery' : Delivery}
  {result : Except Failure Unit}

@[simp] theorem run_failureBlock :
    failureBlock.run delivery = (.ok (), { delivery with calls := delivery.calls ++ [.failure] }) :=
  rfl

@[simp] theorem run_successBlock (decryptResult : OWSMessageDecryptResult) :
    (decrypter.successBlock envelope localRecipientId decryptResult).run delivery =
      (.ok (), { delivery with
        calls := delivery.calls ++ [decrypter.verdict envelope localRecipientId decryptResult] }) := by
  unfold successBlock verdict
  split
  · rfl
  · split
    · rfl
    · rfl

@[simp] theorem run_inWorld {α : Type} (p : Procedure Failure World α) :
    (inWorld p).run delivery =
      ((p.run delivery.world).1, { delivery with world := (p.run delivery.world).2 }) := rfl

theorem unsealed_of_identified (htype : envelope.type ≠ .unidentifiedSender) :
    decrypter.unsealed envelope world = .ok none := by
  unfold unsealed
  split
  · contradiction
  · rfl

theorem authenticated_of_identified (htype : envelope.type ≠ .unidentifiedSender) :
    decrypter.authenticated envelope world = none := by
  rw [authenticated, unsealed_of_identified htype]

/-- **Processing an exception raises** exactly where a thread is asked for and nobody named. -/
theorem processException_eq_error_iff {exception : NSException} :
    (∃ e, processException exception envelope = .error e) ↔
      envelope.source = none ∧ exception.name ∈ threadExceptions := by
  cases hsource : envelope.source with
  | none =>
      cases hname : exception.name <;>
        simp [processException, EnvelopeErrorMessage.initWithEnvelope, threadIdFromContactId,
          hsource, hname, threadExceptions]
  | some source =>
      refine iff_of_false ?_ (by simp)
      rintro ⟨e, he⟩
      simp only [processException, EnvelopeErrorMessage.initWithEnvelope, threadIdFromContactId,
        hsource] at he
      repeat' split at he
      all_goals cases he

/-- A try block: it makes one call of those allowed, or raises before it. -/
def Attempts (allowed : BlockCall → Prop) (p : Procedure Failure Delivery Unit) : Prop :=
  ∀ delivery, (∃ call, allowed call ∧ (p.run delivery).1 = .ok () ∧
      (p.run delivery).2.calls = delivery.calls ++ [call]) ∨
    (∃ e, (p.run delivery).1 = .error e ∧ (p.run delivery).2.calls = delivery.calls)

variable {allowed : BlockCall → Prop}

theorem attempts_successBlock {decryptResult : OWSMessageDecryptResult}
    (h : allowed (decrypter.verdict envelope localRecipientId decryptResult)) :
    Attempts allowed (decrypter.successBlock envelope localRecipientId decryptResult) :=
  fun _ => .inl ⟨_, h, by simp⟩

/-- What calls no block may stand in front of an attempt. -/
theorem Attempts.bind {α : Type} {p : Procedure Failure Delivery α}
    {f : α → Procedure Failure Delivery Unit} (hp : Frames (·.calls) p)
    (hf : ∀ a, Attempts allowed (f a)) : Attempts allowed (p >>= f) := by
  intro delivery
  rcases hrun : p.run delivery with ⟨e | a, delivery₁⟩
  · rw [run_bind_of_error hrun]
    exact .inr ⟨e, rfl, hp.eq_of_run hrun⟩
  · rw [run_bind_of_ok hrun]
    have hcalls : delivery₁.calls = delivery.calls := hp.eq_of_run hrun
    rw [← hcalls]
    exact hf a delivery₁

theorem frames_inWorld {α : Type} (p : Procedure Failure World α) :
    Frames (·.calls) (inWorld p) := fun _ => rfl

variable {p : Procedure Failure Delivery Unit}

/-- What the handler makes of an exception. -/
theorem run_handle_of_raised {exception : NSException}
    (hrun : p.run delivery = (.error (.raised exception), delivery')) :
    (handle (catchIntoFailureBlock envelope) p).run delivery =
      match processException exception envelope with
      | .error e => (.error e, delivery')
      | .ok _ => (.ok (), { delivery' with calls := delivery'.calls ++ [.failure] }) := by
  rw [run_handle_of_error hrun, catchIntoFailureBlock]
  cases hprocessed : processException exception envelope with
  | error e => rfl
  | ok errorMessage => rfl

/-- And of a failed assertion. -/
theorem run_handle_of_terminated {assertion : String}
    (hrun : p.run delivery = (.error (.terminated assertion), delivery')) :
    (handle (catchIntoFailureBlock envelope) p).run delivery =
      (.error (.terminated assertion), delivery') := by
  rw [run_handle_of_error hrun, catchIntoFailureBlock, run_raise]

/-- **An attempt whose handler returns makes one call.** -/
theorem Attempts.handle (hp : Attempts allowed p)
    (h : (handle (catchIntoFailureBlock envelope) p).run delivery = (.ok (), delivery')) :
    ∃ call, (allowed call ∨ call = .failure) ∧ delivery'.calls = delivery.calls ++ [call] := by
  rcases hrun : p.run delivery with ⟨⟨exception | assertion⟩ | ⟨⟩, delivery₁⟩
  · obtain ⟨call, -, hok, -⟩ | ⟨_, -, hcalls⟩ := hp delivery
    · rw [hrun] at hok
      cases hok
    · rw [run_handle_of_raised hrun] at h
      rw [hrun] at hcalls
      split at h
      · cases h
      · cases h
        exact ⟨.failure, .inr rfl, congrArg (· ++ [.failure]) hcalls⟩
  · rw [run_handle_of_terminated hrun] at h
    cases h
  · obtain ⟨call, hallowed, -, hcalls⟩ | ⟨_, herror, -⟩ := hp delivery
    · rw [run_handle_of_ok hrun, Prod.mk.injEq] at h
      rw [hrun] at hcalls
      obtain ⟨-, rfl⟩ := h
      exact ⟨call, .inl hallowed, hcalls⟩
    · rw [hrun] at herror
      cases herror

/-- A handler returns, unless it cannot process the exception. -/
theorem returns_handle
    (h : (handle (catchIntoFailureBlock envelope) p).run delivery = (result, delivery'))
    (survives : Survives result)
    (reported : ∀ exception, (p.run delivery).1 = .error (.raised exception) →
      ¬(envelope.source = none ∧ exception.name ∈ threadExceptions)) : result = .ok () := by
  rcases hrun : p.run delivery with ⟨⟨exception | assertion⟩ | ⟨⟩, delivery₁⟩
  · rw [run_handle_of_raised hrun] at h
    split at h
    · next hprocessed =>
        exact absurd (processException_eq_error_iff.mp ⟨_, hprocessed⟩)
          (reported exception (by rw [hrun]))
    · cases h
      rfl
  · rw [run_handle_of_terminated hrun, Prod.mk.injEq] at h
    exact absurd h.1.symm (survives assertion)
  · rw [run_handle_of_ok hrun, Prod.mk.injEq] at h
    exact h.1.symm

variable {cipherMessageBlock : NSData → Except Failure CipherMessage}

/-- **One call for an envelope that is decrypted with a session**: on a result
with the source of the envelope, or of the failure block. -/
theorem run_decryptEnvelopeWithCipher
    (htype : envelope.type ≠ .unidentifiedSender)
    (hblocked : decrypter.isEnvelopeSenderBlocked envelope = false)
    (h : (decrypter.decryptEnvelopeWithCipher P envelope envelopeData world.stores.localNumber
      cipherMessageBlock).run delivery = (.ok (), delivery')) :
    ∃ call, decrypter.CallMade envelope world call ∧
      delivery'.calls = delivery.calls ++ [call] := by
  have hfailed : decrypter.CallMade envelope world .failure :=
    .failed (by rw [authenticated_of_identified htype]; rfl)
  unfold decryptEnvelopeWithCipher at h
  split at h
  · cases h
    exact ⟨.failure, hfailed, rfl⟩
  · have hone := fun (hattempts : Attempts (decrypter.CallMade envelope world) _) =>
      hattempts.handle h
    obtain ⟨call, hcall | rfl, hcalls⟩ := hone
      (.bind (.lift _) fun _ => .bind (.lift _) fun _ => .bind (frames_inWorld _) fun _ =>
        attempts_successBlock (.identified rfl htype hblocked))
    · exact ⟨call, hcall, hcalls⟩
    · exact ⟨.failure, hfailed, hcalls⟩

/-- It returns, as its sender is named. -/
theorem returns_decryptEnvelopeWithCipher
    (hsource : envelope.source ≠ none)
    (h : (decrypter.decryptEnvelopeWithCipher P envelope envelopeData localRecipientId
      cipherMessageBlock).run delivery = (result, delivery'))
    (survives : Survives result) : result = .ok () := by
  unfold decryptEnvelopeWithCipher at h
  split at h
  · cases h
    rfl
  · exact returns_handle h survives fun _ _ hnone => hsource hnone.1

/-- Where the cipher is asked, it answers as it is to. -/
theorem unsealed_eq {cipher : SMKSecretSessionCipher} {encryptedData : NSData}
    {serverTimestamp : UInt64} (htype : envelope.type = .unidentifiedSender)
    (hcontent : envelope.content = some encryptedData)
    (htimestamp : envelope.serverTimestamp = some serverTimestamp)
    (hcipher : decrypter.secretSessionCipher = some cipher) :
    decrypter.unsealed envelope world = ((cipher.decryptMessage encryptedData serverTimestamp
      world.stores.localNumber owsDevicePrimaryDeviceId).run world).1 := by
  simp [unsealed, htype, hcontent, htimestamp, hcipher]

/-- **One call for an unidentified sender**, where this returns. -/
theorem run_decryptUnidentifiedSender {calls : List BlockCall}
    (htype : envelope.type = .unidentifiedSender)
    (h : (decrypter.decryptUnidentifiedSender envelope world.stores.localNumber).run
      ⟨world, calls⟩ = (.ok (), delivery')) :
    ∃ call, decrypter.CallMade envelope world call ∧ delivery'.calls = calls ++ [call] := by
  unfold decryptUnidentifiedSender at h
  cases hcontent : envelope.content with
  | none =>
      simp only [hcontent] at h
      cases h
      exact ⟨.failure, .failed (by simp [authenticated, unsealed, htype, hcontent]), rfl⟩
  | some encryptedData =>
  cases htimestamp : envelope.serverTimestamp with
  | none =>
      simp only [hcontent, htimestamp] at h
      cases h
      exact ⟨.failure, .failed (by simp [authenticated, unsealed, htype, hcontent, htimestamp]),
        rfl⟩
  | some serverTimestamp =>
  cases hcipher : decrypter.secretSessionCipher with
  | none =>
      simp only [hcontent, htimestamp, hcipher] at h
      rw [run_handle_of_ok run_failureBlock] at h
      cases h
      exact ⟨.failure,
        .failed (by simp [authenticated, unsealed, htype, hcontent, htimestamp, hcipher]), rfl⟩
  | some cipher =>
  simp only [hcontent, htimestamp, hcipher] at h
  have hunsealed : decrypter.unsealed envelope world = _ :=
    unsealed_eq htype hcontent htimestamp hcipher
  rcases hrun : (cipher.decryptMessage encryptedData serverTimestamp world.stores.localNumber
      owsDevicePrimaryDeviceId).run world with ⟨⟨exception | assertion⟩ | decryptResult, world₁⟩
  · -- The exception is caught: the failure block, once it is processed.
    rw [run_handle_of_raised (run_bind_of_error (by rw [run_inWorld, hrun]))] at h
    split at h
    · cases h
    · cases h
      exact ⟨.failure, .failed (by rw [authenticated, hunsealed, hrun]; rfl), rfl⟩
  · rw [run_handle_of_terminated (run_bind_of_error (by rw [run_inWorld, hrun]))] at h
    cases h
  · have hauthenticated : decrypter.authenticated envelope world = decryptResult := by
      rw [authenticated, hunsealed, hrun]
    rw [run_handle, run_bind_of_ok (by rw [run_inWorld, hrun])] at h
    cases hresult : decryptResult.bind (decrypter.unidentifiedSenderResult envelope) with
    | none =>
        simp only [hresult] at h
        cases h
        exact ⟨.failure, .failed (by rw [hauthenticated, hresult]), rfl⟩
    | some messageResult =>
        simp only [hresult, run_successBlock] at h
        cases h
        obtain ⟨found, rfl, hfound⟩ := Option.bind_eq_some_iff.mp hresult
        exact ⟨_, .unidentified hauthenticated hfound, rfl⟩

/-- It returns, unless the exception of the cipher is left unreported. -/
theorem returns_decryptUnidentifiedSender {calls : List BlockCall}
    (htype : envelope.type = .unidentifiedSender)
    (h : (decrypter.decryptUnidentifiedSender envelope world.stores.localNumber).run
      ⟨world, calls⟩ = (result, delivery'))
    (survives : Survives result) (reported : ¬decrypter.IsUnreported envelope world) :
    result = .ok () := by
  unfold decryptUnidentifiedSender at h
  split at h
  · next encryptedData serverTimestamp hcontent htimestamp =>
      refine returns_handle h survives fun exception hraised unreported => ?_
      cases hcipher : decrypter.secretSessionCipher with
      | none =>
          simp only [hcipher] at hraised
          cases hraised
      | some cipher =>
          simp only [hcipher] at hraised
          refine reported ⟨unreported.1, exception, ?_, unreported.2⟩
          rw [unsealed_eq htype hcontent htimestamp hcipher]
          rcases hrun : (cipher.decryptMessage encryptedData serverTimestamp
            world.stores.localNumber owsDevicePrimaryDeviceId).run world with ⟨e | found, world₁⟩
          · rw [run_bind_of_error (by rw [run_inWorld, hrun])] at hraised
            cases hraised
            rfl
          -- Once there is an answer, nothing raises.
          · rw [run_bind_of_ok (by rw [run_inWorld, hrun])] at hraised
            cases hresult : found.bind (decrypter.unidentifiedSenderResult envelope) with
            | none =>
                simp only [hresult] at hraised
                cases hraised
            | some messageResult =>
                simp only [hresult, run_successBlock] at hraised
                cases hraised
  · cases h
    rfl

/-- **An exception left unreported calls no block.** -/
theorem calls_of_isUnreported (unreported : decrypter.IsUnreported envelope world)
    (h : (decrypter.decryptEnvelope P envelope envelopeData).run ⟨world, []⟩ =
      (result, delivery')) : delivery'.calls = [] := by
  obtain ⟨hsource, exception, hunsealed, hname⟩ := unreported
  obtain ⟨e, hprocessed⟩ := processException_eq_error_iff.mpr ⟨hsource, hname⟩
  unfold unsealed at hunsealed
  split at hunsealed
  · next encryptedData serverTimestamp cipher htype hcontent htimestamp hcipher =>
      have hrun := Prod.ext (x := (cipher.decryptMessage encryptedData serverTimestamp
        world.stores.localNumber owsDevicePrimaryDeviceId).run world)
        (y := (.error (.raised exception), _)) hunsealed rfl
      simp only [decryptEnvelope, run_read_bind, run_ite, htype, decryptUnidentifiedSender,
        hcontent, htimestamp, hcipher] at h
      rw [if_neg (by simp [turnsAway, htype]),
        run_handle_of_raised (run_bind_of_error (by rw [run_inWorld, hrun])), hprocessed] at h
      cases h
      rfl
  · cases hunsealed

/-- **Exactly one call**, where this returns. -/
theorem run_decryptEnvelope
    (h : (decrypter.decryptEnvelope P envelope envelopeData).run ⟨world, []⟩ =
      (.ok (), delivery')) :
    ∃ call, decrypter.CallMade envelope world call ∧ delivery'.calls = [call] := by
  simp only [decryptEnvelope, run_read_bind, run_ite] at h
  by_cases hturns : decrypter.turnsAway envelope = true
  · rw [if_pos hturns] at h
    cases h
    have htype : envelope.type ≠ .unidentifiedSender := by
      intro htype
      simp [turnsAway, htype] at hturns
    exact ⟨.failure, .failed (by rw [authenticated_of_identified htype]; rfl), rfl⟩
  · rw [if_neg hturns] at h
    have hblocked : envelope.type ≠ .unidentifiedSender →
        decrypter.isEnvelopeSenderBlocked envelope = false := by
      intro htype
      by_contra hblocked
      simp [turnsAway, htype, hblocked] at hturns
    cases htype : envelope.type with
    | ciphertext | prekeyBundle =>
        have hidentified : envelope.type ≠ .unidentifiedSender := by simp [htype]
        simp only [htype] at h
        exact run_decryptEnvelopeWithCipher hidentified (hblocked hidentified) h
    | unidentifiedSender =>
        simp only [htype] at h
        exact run_decryptUnidentifiedSender htype h
    | receipt | keyExchange | unknown =>
        have hidentified : envelope.type ≠ .unidentifiedSender := by simp [htype]
        simp only [htype, run_successBlock] at h
        cases h
        exact ⟨_, .identified rfl hidentified (hblocked hidentified), rfl⟩

/-- **It returns**, unless an exception is left unreported. -/
theorem returns_decryptEnvelope
    (h : (decrypter.decryptEnvelope P envelope envelopeData).run ⟨world, []⟩ =
      (result, delivery'))
    (survives : Survives result) (reported : ¬decrypter.IsUnreported envelope world) :
    result = .ok () := by
  simp only [decryptEnvelope, run_read_bind, run_ite] at h
  split at h
  · cases h
    rfl
  · next hturns =>
      -- Whoever is not turned away has named the sender, or is not asked to.
      have hsource : envelope.type ≠ .unidentifiedSender → envelope.source ≠ none := by
        intro htype hnone
        simp [turnsAway, htype, hnone] at hturns
      cases htype : envelope.type with
      | ciphertext | prekeyBundle =>
          simp only [htype] at h
          exact returns_decryptEnvelopeWithCipher (hsource (by simp [htype])) h survives
      | unidentifiedSender =>
          simp only [htype] at h
          exact returns_decryptUnidentifiedSender htype h survives reported
      | receipt | keyExchange | unknown =>
          simp only [htype, run_successBlock] at h
          cases h
          rfl

end Run

end OWSMessageDecrypter

end ObjcSwiftLearning.SignalServiceKit
