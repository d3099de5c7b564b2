import ObjcSwiftLearning.AxolotlKit.AdditivePrimitives

/-!
# The cipher message codec: round trip and version gate

What a receiver learns from the bytes of a cipher message, and which bytes it
accepts at all.

* `sent_message_is_received` — every field of a message survives the wire, alone
  or nested in a `PreKeyWhisperMessage`, and its MAC verifies under identity keys
  in either of their two forms.
* `versionGate_iff` — the outer parser's version test never fires, so an outer
  message is checked exactly when its own version byte is the supported one or
  the message is rejected further inside.
-/

namespace ObjcSwiftLearning.AxolotlKit

open SerializationUtilities

/-! ## The two forms of a key -/

/-- A key with its type byte: 33 bytes, of which the first is `DJB_TYPE`. -/
def IsTypedKey (key : NSData) : Prop := key.length = 33 ∧ key.head? = some djbType

/-- The data is the key, with or without its type byte. -/
def IsFormOf (key : Key) (data : NSData) : Prop :=
  data = key.val ∨ data = prependKeyType key.val

theorem IsTypedKey.exists_key {key : NSData} (h : IsTypedKey key) :
    ∃ k : Key, key = prependKeyType k.val := by
  obtain ⟨hlength, hhead⟩ := h
  cases key with
  | nil => cases hhead
  | cons byte bytes =>
      obtain rfl := Option.some.inj hhead
      have hbytes : bytes.length = 32 := by simpa using hlength
      exact ⟨⟨bytes, hbytes⟩, (prependKeyType_of_key ⟨bytes, hbytes⟩).symm⟩

theorem isTypedKey_prependKeyType (key : Key) : IsTypedKey (prependKeyType key.val) :=
  ⟨length_prependKeyType_key key, by simp [prependKeyType_of_key]⟩

theorem IsFormOf.prependKeyType_eq {key : Key} {data : NSData} (h : IsFormOf key data) :
    prependKeyType data = prependKeyType key.val := by
  obtain rfl | rfl := h
  · rfl
  · exact prependKeyType_prependKeyType key.val

/-! ## Round trip -/

section RoundTrip

variable {P : Primitives}
/-- **A message survives the wire.**  For any counters, ids, payload and MAC key:
the parsed message has the fields of the sent one, its ratchet key without the
type byte, and verifies under the sender's MAC key and either form of the two
identity keys; nested in a `PreKeyWhisperMessage`, it comes back the same, with
the ids and keys beside it. -/
theorem sent_message_is_received (coder : P.CodesMessages) (macKey : NSData)
    {ratchetKey : NSData} (hratchetKey : IsTypedKey ratchetKey) (counter previousCounter : Int32)
    (cipherText : NSData) (sender receiver : Key)
    {senderIdentityKey receiverIdentityKey : NSData} (hsender : IsFormOf sender senderIdentityKey)
    (hreceiver : IsFormOf receiver receiverIdentityKey)
    (registrationId prekeyId signedPrekeyId : Int32) (baseKey identityKey : NSData) :
    let message := WhisperMessage.initWithVersion P 3 macKey ratchetKey counter previousCounter
      cipherText senderIdentityKey receiverIdentityKey
    ∃ parsed : WhisperMessage,
      WhisperMessage.throwsInitWithData P message.serialized = .ok parsed ∧
      parsed.version = 3 ∧ parsed.counter = counter ∧
      parsed.previousCounter = previousCounter ∧ parsed.cipherText = cipherText ∧
      ratchetKey = djbType :: parsed.senderRatchetKey ∧
      (∀ senderForm receiverForm, IsFormOf sender senderForm → IsFormOf receiver receiverForm →
        parsed.throwsVerifyMac P senderForm receiverForm macKey = .ok ()) ∧
      ∃ outer : PreKeyWhisperMessage,
        PreKeyWhisperMessage.throwsInitWithData P
          (PreKeyWhisperMessage.initWithWhisperMessage P message registrationId prekeyId
            signedPrekeyId baseKey identityKey).serialized = .ok outer ∧
        outer.version = 3 ∧ outer.registrationId = registrationId ∧
        outer.prekeyID = prekeyId ∧ outer.signedPrekeyId = signedPrekeyId ∧
        outer.baseKey = baseKey ∧ outer.identityKey = identityKey ∧ outer.message = parsed := by
  intro message
  obtain ⟨key, rfl⟩ := hratchetKey.exists_key
  have hparse : WhisperMessage.throwsInitWithData P message.serialized = .ok message.received :=
    WhisperMessage.throwsInitWithData_serialized coder macKey key counter previousCounter
      cipherText senderIdentityKey receiverIdentityKey
  have hnested := PreKeyWhisperMessage.throwsInitWithData_serialized coder
    registrationId prekeyId signedPrekeyId baseKey identityKey rfl hparse
  refine ⟨message.received, hparse, rfl, rfl, rfl, rfl, ?_, ?_, _, hnested, rfl, rfl, rfl, rfl,
    rfl, rfl, rfl⟩
  · simp [message, WhisperMessage.received, WhisperMessage.initWithVersion, prependKeyType_of_key]
  · intro senderForm receiverForm hsenderForm hreceiverForm
    rw [WhisperMessage.throwsVerifyMac_received]
    apply WhisperMessage.throwsVerifyMac_initWithVersion_of_eq
    · rw [hsender.prependKeyType_eq, hsenderForm.prependKeyType_eq]
    · rw [hreceiver.prependKeyType_eq, hreceiverForm.prependKeyType_eq]

/-- A first message of ours, without a one-time prekey, whose keys are handed over
in different forms. -/
theorem sent_message_is_received_sample :
    ∃ parsed : WhisperMessage, ∃ outer : PreKeyWhisperMessage,
      parsed.senderRatchetKey = (sampleKey 4).val ∧
      parsed.throwsVerifyMac additivePrimitives (prependKeyType (sampleKey 10).val)
        (sampleKey 11).val [9, 9] = .ok () ∧
      outer.prekeyID = -1 ∧ outer.message = parsed := by
  obtain ⟨parsed, -, -, -, -, -, hkey, hmac, outer, -, -, -, hprekeyID, -, -, -, hmessage⟩ :=
    sent_message_is_received additivePrimitives_lawful.toCodesMessages [9, 9]
      (isTypedKey_prependKeyType (sampleKey 4)) 5 2 [1, 2, 3] (sampleKey 10) (sampleKey 11)
      (.inl rfl) (.inr rfl) 7 (-1) 1 (prependKeyType (sampleKey 5).val)
      (prependKeyType (sampleKey 10).val)
  refine ⟨parsed, outer, ?_, hmac _ _ (.inr rfl) (.inl rfl), hprekeyID, hmessage⟩
  rw [prependKeyType_of_key] at hkey
  exact (List.cons.inj hkey).2.symm

end RoundTrip

/-! ## Version gate -/

section VersionGate

variable {P : Primitives} {serialized : NSData}

/-- The version of the outer message: the high half of the first byte. -/
def outerVersion (serialized : NSData) : Int32 := highBitsToInt (serialized.headD 0)

/-- What follows the first byte is a message with its required fields, and the
message nested in it parses. -/
def CarriesWhisperMessage (P : Primitives) (serialized : NSData) : Prop :=
  serialized ≠ [] ∧ ∃ proto signedPrekeyId baseKey identityKey message inner,
    P.parsePreKeyWhisperMessage (serialized.drop 1) = some proto ∧
    PreKeyWhisperMessage.parseProto proto = .ok (signedPrekeyId, baseKey, identityKey, message) ∧
    WhisperMessage.throwsInitWithData P message = .ok inner

/-- The byte string is accepted with a supported version, which is that of the
nested message, or it is rejected by an exception. -/
def VersionGate (P : Primitives) (serialized : NSData) : Prop :=
  (∀ message, PreKeyWhisperMessage.throwsInitWithData P serialized = .ok message →
    minimumSupportedVersion ≤ message.version ∧ message.version ≤ currentVersion ∧
      message.version = message.message.version) ∧
  OnlyRaises (PreKeyWhisperMessage.throwsInitWithData P serialized)

/-- The inner parser lets only the current version through. -/
theorem WhisperMessage.version_of_throwsInitWithData {message : WhisperMessage}
    (h : throwsInitWithData P serialized = .ok message) : message.version = currentVersion := by
  simp only [throwsInitWithData] at h
  split at h
  · cases h
  · split at h
    · cases h
    · rename_i hlow
      split at h
      · cases h
      · rename_i hhigh
        split at h
        · cases h
        · obtain ⟨fields, -, h⟩ := bind_eq_ok.mp h
          obtain ⟨senderRatchetKey, -, h⟩ := bind_eq_ok.mp h
          obtain rfl := Except.ok.inj h
          exact Int32.le_antisymm (Int32.not_lt.mp hhigh) (Int32.not_lt.mp hlow)

/-- The inner parser fails with exceptions only. -/
theorem WhisperMessage.onlyRaises_throwsInitWithData (serialized : NSData) :
    OnlyRaises (throwsInitWithData P serialized) := by
  simp only [throwsInitWithData]
  split
  · exact onlyRaises_exception _ _
  · split
    · exact onlyRaises_exception _ _
    · split
      · exact onlyRaises_exception _ _
      · split
        · exact onlyRaises_exception _ _
        · rename_i proto _
          refine OnlyRaises.bind ?_ fun fields _ => ?_
          · unfold parseProto
            split
            · exact onlyRaises_ok _
            · exact onlyRaises_exception _ _
          · refine (onlyRaises_throwsRemoveKeyType _).bind fun key _ => ?_
            exact onlyRaises_ok _

theorem not_currentVersion_lt_and_lt_minimum (version : Int32) :
    ¬(currentVersion < version ∧ version < minimumSupportedVersion) := by
  rintro ⟨hhigh, hlow⟩
  exact absurd (Int32.lt_trans hhigh hlow) (by decide)

/-- **The outer parser accepts whatever carries a message**, under the version
its first byte names. -/
theorem PreKeyWhisperMessage.throwsInitWithData_eq_ok {message : PreKeyWhisperMessage}
    (h : throwsInitWithData P serialized = .ok message) :
    CarriesWhisperMessage P serialized ∧ message.version = outerVersion serialized ∧
      message.message.version = currentVersion := by
  simp only [throwsInitWithData, if_neg (not_currentVersion_lt_and_lt_minimum _)] at h
  split at h
  · cases h
  · rename_i hnonempty
    split at h
    · cases h
    · rename_i proto hproto
      obtain ⟨⟨signedPrekeyId, baseKey, identityKey, data⟩, hfields, h⟩ := bind_eq_ok.mp h
      obtain ⟨inner, hinner, h⟩ := bind_eq_ok.mp h
      obtain rfl := Except.ok.inj h
      refine ⟨⟨?_, proto, signedPrekeyId, baseKey, identityKey, data, inner, hproto, hfields,
        hinner⟩, rfl, WhisperMessage.version_of_throwsInitWithData hinner⟩
      rintro rfl
      exact hnonempty (by decide)

theorem CarriesWhisperMessage.throwsInitWithData (h : CarriesWhisperMessage P serialized) :
    ∃ message, PreKeyWhisperMessage.throwsInitWithData P serialized = .ok message := by
  obtain ⟨hnonempty, proto, signedPrekeyId, baseKey, identityKey, data, inner, hproto, hfields,
    hinner⟩ := h
  have hlength : ¬serialized.length < 1 := by
    have := List.length_pos_iff.mpr hnonempty
    omega
  simp only [PreKeyWhisperMessage.throwsInitWithData, if_neg hlength,
    if_neg (not_currentVersion_lt_and_lt_minimum _), hproto, hfields, ok_bind, hinner]
  exact ⟨_, rfl⟩

/-- The outer parser fails with exceptions only. -/
theorem PreKeyWhisperMessage.onlyRaises_throwsInitWithData (serialized : NSData) :
    OnlyRaises (throwsInitWithData P serialized) := by
  simp only [throwsInitWithData]
  split
  · exact onlyRaises_exception _ _
  · split
    · exact onlyRaises_exception _ _
    · split
      · exact onlyRaises_exception _ _
      · refine OnlyRaises.bind ?_ fun fields _ => ?_
        · unfold parseProto
          split
          · exact onlyRaises_ok _
          · exact onlyRaises_exception _ _
        · refine (WhisperMessage.onlyRaises_throwsInitWithData _).bind fun inner _ => ?_
          exact onlyRaises_ok _

/-- **When the version gate holds.**  A byte string is gated exactly when its
version is the supported one, or nothing after its first byte would be
accepted. -/
theorem versionGate_iff (serialized : NSData) :
    VersionGate P serialized ↔
      (CarriesWhisperMessage P serialized → outerVersion serialized = currentVersion) := by
  constructor
  · rintro ⟨haccepted, -⟩ hcarries
    obtain ⟨message, hmessage⟩ := hcarries.throwsInitWithData
    obtain ⟨-, hversion, hinner⟩ := PreKeyWhisperMessage.throwsInitWithData_eq_ok hmessage
    rw [← hversion, (haccepted message hmessage).2.2, hinner]
  · intro hsupported
    refine ⟨fun message hmessage => ?_,
      PreKeyWhisperMessage.onlyRaises_throwsInitWithData serialized⟩
    obtain ⟨hcarries, hversion, hinner⟩ :=
      PreKeyWhisperMessage.throwsInitWithData_eq_ok hmessage
    rw [hinner, hversion, hsupported hcarries]
    exact ⟨Int32.le_refl _, Int32.le_refl _, rfl⟩

/-- The first `WhisperMessage` of a session of ours. -/
def firstWhisperMessage : WhisperMessage :=
  WhisperMessage.initWithVersion additivePrimitives 3 [9, 9]
    (prependKeyType (sampleKey 4).val) 0 0 [1, 2, 3] (sampleKey 10).val (sampleKey 11).val

/-- It, inside a first message with the version byte `0x43`. -/
def relabelledFirstMessage : NSData :=
  0x43 :: additivePrimitives.serializePreKeyWhisperMessage
    (PreKeyWhisperMessage.toProto 7 (-1) 1 (prependKeyType (sampleKey 5).val)
      (prependKeyType (sampleKey 10).val) firstWhisperMessage.serialized)

/-- **The gate is open**: version `4` is accepted around a message of version `3`. -/
theorem relabelledFirstMessage_not_gated :
    ¬VersionGate additivePrimitives relabelledFirstMessage := by
  rintro ⟨haccepted, -⟩
  have hcarries : CarriesWhisperMessage additivePrimitives relabelledFirstMessage :=
    ⟨List.cons_ne_nil _ _, _, _, _, _, _, _,
      additivePrimitives_lawful.toCodesMessages.parse_serializePreKeyWhisperMessage _, rfl,
      WhisperMessage.throwsInitWithData_serialized additivePrimitives_lawful.toCodesMessages _ _ _
        _ _ _ _⟩
  obtain ⟨message, hmessage⟩ := hcarries.throwsInitWithData
  obtain ⟨-, hversion, -⟩ := PreKeyWhisperMessage.throwsInitWithData_eq_ok hmessage
  have hsupported := (haccepted message hmessage).2.1
  rw [hversion] at hsupported
  exact absurd hsupported (by decide)

end VersionGate

end ObjcSwiftLearning.AxolotlKit
