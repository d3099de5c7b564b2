import ObjcSwiftLearning.SignalServiceKit.MessageQueues

/-!
# The items of a fetched page

Under censorship circumvention the app fetches its messages over REST.  An item of a page is a
dictionary, from which an envelope is built if all that is required of it is there.

* `MessageFetcherJob.buildEnvelope_eq_some` — what is built of an item.
* `MessageFetcherJob.IsServed.buildEnvelope_isSome_iff` — **which items are envelopes**: those with
  a source and a source device.
-/

namespace ObjcSwiftLearning.Signal

open AxolotlKit SignalServiceKit

/-! ## An item -/

/-- What a dictionary has under a key, read as a type. -/
inductive ParamField (α : Type) where
  /-- Nothing, or `NSNull`. -/
  | missing
  | invalid
  | value (x : α)
  deriving DecidableEq

inductive ParamParseError where
  | missingField (key : String)
  | invalidFormat (key : String)

namespace ParamField

variable {α : Type}

def optional (key : String) : ParamField α → Except ParamParseError (Option α)
  | missing => .ok none
  | invalid => .error (.invalidFormat key)
  | value x => .ok (some x)

def required (key : String) (field : ParamField α) : Except ParamParseError α :=
  field.optional key >>= fun value =>
    match value with
    | none => .error (.missingField key)
    | some value => .ok value

def IsValue (field : ParamField α) : Prop := ∃ x, field = value x

end ParamField

/-- An item of a page. -/
structure MessageDict where
  type : ParamField Int32
  source : ParamField String
  timestamp : ParamField UInt64
  sourceDevice : ParamField UInt32
  message : ParamField String
  content : ParamField String
  serverTimestamp : ParamField UInt64
  guid : ParamField String

/-- What comes with the system, and the protobuf coder. -/
structure FetchPrimitives where
  base64Encoded : String → Option NSData
  serializedData : SSKProtoEnvelope → Option NSData

def envelopeType (rawValue : Int32) : Option SSKProtoEnvelopeType :=
  if rawValue = 0 then some .unknown
  else if rawValue = 1 then some .ciphertext
  else if rawValue = 2 then some .keyExchange
  else if rawValue = 3 then some .prekeyBundle
  else if rawValue = 5 then some .receipt
  else if rawValue = 6 then some .unidentifiedSender
  else none

/-- What an acknowledgement asks the server to delete. -/
inductive Acknowledgement where
  | byServerGuid (serverGuid : String) (serverTimestamp : UInt64)
  | bySource (source : String) (timestamp : UInt64)

namespace MessageFetcherJob

variable (P : FetchPrimitives)

/-- What follows the first guard of `optionalBase64EncodedData(key:)`. -/
def decodedBase64 (key encodedData : String) : Except ParamParseError (Option NSData) :=
  match P.base64Encoded encodedData with
  | none => .error (.invalidFormat key)
  | some data => .ok (if 0 < data.length then some data else none)

def optionalBase64EncodedData (key : String) (field : ParamField String) :
    Except ParamParseError (Option NSData) :=
  field.optional key >>= fun encodedData =>
    match encodedData with
    | none => .ok none
    | some encodedData => decodedBase64 P key encodedData

def requiredType (field : ParamField Int32) : Except ParamParseError SSKProtoEnvelopeType :=
  field.required "type" >>= fun typeInt =>
    match envelopeType typeInt with
    | none => .error (.invalidFormat "type")
    | some type => .ok type

def tryBuildEnvelope (messageDict : MessageDict) : Except ParamParseError SSKProtoEnvelope := do
  let type ← requiredType messageDict.type
  let source ← messageDict.source.required "source"
  let timestamp ← messageDict.timestamp.required "timestamp"
  let sourceDevice ← messageDict.sourceDevice.required "sourceDevice"
  let legacyMessage ← optionalBase64EncodedData P "message" messageDict.message
  let content ← optionalBase64EncodedData P "content" messageDict.content
  let serverTimestamp ← messageDict.serverTimestamp.optional "serverTimestamp"
  let serverGuid ← messageDict.guid.optional "guid"
  return { type, timestamp, source := some source, sourceDevice := some sourceDevice
           relay := none, legacyMessage, content, serverGuid, serverTimestamp }

def buildEnvelope (messageDict : MessageDict) : Option SSKProtoEnvelope :=
  (tryBuildEnvelope P messageDict).toOption

def parseMessagesResponse (messages : List MessageDict) (more : ParamField Bool) :
    List SSKProtoEnvelope × Bool :=
  (messages.filterMap (buildEnvelope P),
    match more with
    | .value more => more
    | _ => false)

/-- `acknowledgeDelivery(envelope:)`: the request it makes. -/
def acknowledgeDelivery (envelope : SSKProtoEnvelope) : Option Acknowledgement :=
  match envelope.serverGuid, envelope.serverTimestamp, envelope.source with
  | some serverGuid, some serverTimestamp, _ => some (.byServerGuid serverGuid serverTimestamp)
  | _, _, some source => some (.bySource source envelope.timestamp)
  | _, _, none => none

/-- What an envelope adds to the jobs of the receiver, where `handleReceivedEnvelopeData:` commits
before it returns. -/
def committedData (envelope : SSKProtoEnvelope) : List NSData :=
  ((P.serializedData envelope).filter acceptsEnvelopeData).toList

/-! ### Which items are envelopes -/

variable {P} {messageDict : MessageDict} {envelope : SSKProtoEnvelope}

def DecodesBase64 (P : FetchPrimitives) (field : ParamField String) : Prop :=
  field = .missing ∨
    ∃ encodedData, field = .value encodedData ∧ (P.base64Encoded encodedData).isSome

theorem optionalBase64EncodedData_ok_iff {key : String} {field : ParamField String} :
    (∃ data, optionalBase64EncodedData P key field = .ok data) ↔ DecodesBase64 P field := by
  cases field with
  | missing => exact iff_of_true ⟨none, rfl⟩ (.inl rfl)
  | invalid =>
      refine iff_of_false ?_ ?_
      · rintro ⟨data, hdata⟩
        cases hdata
      · rintro (hfield | ⟨encodedData, hfield, -⟩)
        · cases hfield
        · cases hfield
  | value encodedData =>
      have hdecoded : optionalBase64EncodedData P key (.value encodedData) =
          decodedBase64 P key encodedData := rfl
      rw [hdecoded, decodedBase64]
      cases hbase64 : P.base64Encoded encodedData with
      | none =>
          refine iff_of_false ?_ ?_
          · rintro ⟨data, hdata⟩
            cases hdata
          · rintro (hfield | ⟨other, hfield, hsome⟩)
            · cases hfield
            · obtain rfl := ParamField.value.inj hfield
              rw [hbase64] at hsome
              cases hsome
      | some data =>
          exact iff_of_true ⟨_, rfl⟩ (.inr ⟨encodedData, rfl, by rw [hbase64]; rfl⟩)

/-- What the server promises of an item, and that its envelope is not too large. -/
structure IsServed (P : FetchPrimitives) (messageDict : MessageDict) : Prop where
  type : ∃ rawValue type, messageDict.type = .value rawValue ∧ envelopeType rawValue = some type
  timestamp : messageDict.timestamp.IsValue
  guid : messageDict.guid.IsValue
  serverTimestamp : messageDict.serverTimestamp.IsValue
  size : ∀ envelope, buildEnvelope P messageDict = some envelope →
    ∃ data, P.serializedData envelope = some data ∧ acceptsEnvelopeData data = true

/-- The item has what the app asks of it beyond that. -/
def IsComplete (P : FetchPrimitives) (messageDict : MessageDict) : Prop :=
  messageDict.source.IsValue ∧ messageDict.sourceDevice.IsValue ∧
    DecodesBase64 P messageDict.message ∧ DecodesBase64 P messageDict.content

/-- A required field has a value, or nothing is built. -/
theorem required_eq_ok {α : Type} {key : String} {field : ParamField α} {x : α} :
    field.required key = .ok x ↔ field = .value x := by
  cases field with
  | missing | invalid => exact iff_of_false (fun h => by cases h) fun h => by cases h
  | value y =>
      constructor
      · intro h
        obtain rfl := Except.ok.inj h
        rfl
      · intro h
        obtain rfl := ParamField.value.inj h
        rfl

/-- **What is built** of an item. -/
theorem buildEnvelope_eq_some : buildEnvelope P messageDict = some envelope ↔
    ∃ type, requiredType messageDict.type = .ok type ∧
      ∃ source, messageDict.source = .value source ∧
      ∃ timestamp, messageDict.timestamp = .value timestamp ∧
      ∃ sourceDevice, messageDict.sourceDevice = .value sourceDevice ∧
      ∃ legacyMessage,
        optionalBase64EncodedData P "message" messageDict.message = .ok legacyMessage ∧
      ∃ content, optionalBase64EncodedData P "content" messageDict.content = .ok content ∧
      ∃ serverTimestamp,
        messageDict.serverTimestamp.optional "serverTimestamp" = .ok serverTimestamp ∧
      ∃ serverGuid, messageDict.guid.optional "guid" = .ok serverGuid ∧
        ({ type, timestamp, source := some source, sourceDevice := some sourceDevice
           relay := none, legacyMessage, content, serverGuid, serverTimestamp } :
          SSKProtoEnvelope) = envelope := by
  have hbuilt : buildEnvelope P messageDict = some envelope ↔
      tryBuildEnvelope P messageDict = .ok envelope := by
    rw [buildEnvelope]
    cases tryBuildEnvelope P messageDict <;> simp [Except.toOption]
  rw [hbuilt, tryBuildEnvelope]
  simp only [bind_eq_ok, required_eq_ok, pure, Except.pure, Except.ok.injEq]

/-- **Which items are built**, of those the server returns. -/
theorem IsServed.buildEnvelope_isSome_iff (h : IsServed P messageDict) :
    (buildEnvelope P messageDict).isSome ↔ IsComplete P messageDict := by
  rw [Option.isSome_iff_exists]
  constructor
  · rintro ⟨envelope, henvelope⟩
    obtain ⟨-, -, source, hsource, -, -, sourceDevice, hsourceDevice, message, hmessage, content,
      hcontent, -⟩ := buildEnvelope_eq_some.mp henvelope
    exact ⟨⟨source, hsource⟩, ⟨sourceDevice, hsourceDevice⟩,
      optionalBase64EncodedData_ok_iff.mp ⟨message, hmessage⟩,
      optionalBase64EncodedData_ok_iff.mp ⟨content, hcontent⟩⟩
  · rintro ⟨⟨source, hsource⟩, ⟨sourceDevice, hsourceDevice⟩, hmessage, hcontent⟩
    obtain ⟨rawValue, type, hrawValue, htype⟩ := h.type
    obtain ⟨timestamp, htimestamp⟩ := h.timestamp
    obtain ⟨serverTimestamp, hserverTimestamp⟩ := h.serverTimestamp
    obtain ⟨guid, hguid⟩ := h.guid
    obtain ⟨message, hmessage⟩ := optionalBase64EncodedData_ok_iff.mpr hmessage
    obtain ⟨content, hcontent⟩ := optionalBase64EncodedData_ok_iff.mpr hcontent
    refine ⟨_, buildEnvelope_eq_some.mpr ⟨type, ?_, source, hsource, timestamp, htimestamp,
      sourceDevice, hsourceDevice, message, hmessage, content, hcontent, some serverTimestamp, ?_,
      some guid, ?_, rfl⟩⟩
    · rw [requiredType, hrawValue]
      simp only [bind_eq_ok, required_eq_ok]
      exact ⟨rawValue, rfl, by rw [htype]⟩
    · rw [hserverTimestamp]
      rfl
    · rw [hguid]
      rfl

theorem acknowledgeDelivery_of_build (hbuilt : buildEnvelope P messageDict = some envelope)
    {guid : String} {serverTimestamp : UInt64} (hguid : messageDict.guid = .value guid)
    (hserverTimestamp : messageDict.serverTimestamp = .value serverTimestamp) :
    acknowledgeDelivery envelope = some (.byServerGuid guid serverTimestamp) := by
  obtain ⟨type, -, source, -, timestamp, -, sourceDevice, -, message, -, content, -, time, htime,
    serverGuid, hserverGuid, rfl⟩ := buildEnvelope_eq_some.mp hbuilt
  rw [hserverTimestamp] at htime
  rw [hguid] at hserverGuid
  obtain rfl := Except.ok.inj htime
  obtain rfl := Except.ok.inj hserverGuid
  rfl

end MessageFetcherJob

end ObjcSwiftLearning.Signal
