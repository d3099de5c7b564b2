import ObjcSwiftLearning.AxolotlKit.AdditivePrimitives
import ObjcSwiftLearning.SignalServiceKit.MessageDecrypter

/-!
# Are blocked senders discarded?

`decryptEnvelope` asks twice whether the sender is blocked, before and after
decryption, and both times it asks about the source of the outer envelope.  An
unidentified-sender envelope has none there: its sender is known only once the
sealed-sender cipher has authenticated it, and nothing asks about that one.

* `OpensToBlockedSender` — an envelope whose authenticated sender is blocked, and
  which passes every other check.
* `discardsBlockedSenders_iff` — **the condition is exact**: one block is called,
  and no result of a blocked source is handed over, unless the cipher's exception
  is left unreported or the envelope opens to a blocked sender.
-/

namespace ObjcSwiftLearning.SignalServiceKit.OWSMessageDecrypter

open AxolotlKit Procedure

variable {P : Primitives} {decrypter : OWSMessageDecrypter} {envelope : SSKProtoEnvelope}
  {world : World} {call : BlockCall}

/-- No result handed over has a blocked source. -/
def DiscardsBlockedSenders (decrypter : OWSMessageDecrypter) (calls : List BlockCall) : Prop :=
  ∀ result source, .success result ∈ calls → result.source = some source →
    source ∉ decrypter.blockedPhoneNumbers

/-- An unidentified-sender envelope that opens to a blocked sender: the source
and device the cipher authenticates are well formed and not our own, and the
envelope can be written with them. -/
structure OpensToBlockedSender (decrypter : OWSMessageDecrypter) (envelope : SSKProtoEnvelope)
    (world : World) (decryptResult : SMKDecryptResult) : Prop where
  authenticated : decrypter.authenticated envelope world = some decryptResult
  blocked : decryptResult.senderRecipientId ∈ decrypter.blockedPhoneNumbers
  outerSource : decrypter.isEnvelopeSenderBlocked envelope = false
  validSource : decrypter.isValidE164 decryptResult.senderRecipientId = true
  validDevice : 1 ≤ decryptResult.senderDeviceId.toInt ∧
    decryptResult.senderDeviceId.toInt ≤ 4294967295
  notSelf : ¬(world.stores.localNumber = some decryptResult.senderRecipientId ∧
    decryptResult.senderDeviceId.toInt = 1)
  rebuilt : (decrypter.buildSerializedData { envelope with
    source := some decryptResult.senderRecipientId
    sourceDevice := some (.ofNat decryptResult.senderDeviceId.toInt.toNat) }).isSome = true

theorem length_pos_of_isValidE164 {source : String} (h : decrypter.isValidE164 source = true) :
    ¬source.length < 1 := by
  intro hlength
  have hnil : source.toList = [] := by
    rw [← List.length_eq_zero_iff, String.length_toList]
    omega
  simp [isValidE164, hnil] at h

/-- The device id `1` is the one our own messages come from. -/
theorem ofNat_eq_primaryDevice_iff {deviceId : ℤ} (hpos : 1 ≤ deviceId)
    (hmax : deviceId ≤ 4294967295) :
    UInt32.ofNat deviceId.toNat = owsDevicePrimaryDeviceId ↔ deviceId = 1 := by
  rw [owsDevicePrimaryDeviceId, ← UInt32.toNat_inj, UInt32.toNat_ofNat']
  simp only [UInt32.reduceToNat]
  omega

theorem unidentifiedSenderResult_eq_some {decryptResult : SMKDecryptResult}
    {result : OWSMessageDecryptResult} :
    decrypter.unidentifiedSenderResult envelope decryptResult = some result ↔
      decrypter.isValidE164 decryptResult.senderRecipientId = true ∧
      (1 ≤ decryptResult.senderDeviceId.toInt ∧
        decryptResult.senderDeviceId.toInt ≤ 4294967295) ∧
      ∃ newEnvelopeData,
        decrypter.buildSerializedData { envelope with
          source := some decryptResult.senderRecipientId
          sourceDevice := some (.ofNat decryptResult.senderDeviceId.toInt.toNat) } =
            some newEnvelopeData ∧
        result = {
          envelopeData := newEnvelopeData
          plaintextData := some (removePadding decryptResult.paddedPayload)
          source := some decryptResult.senderRecipientId
          sourceDevice := .ofNat decryptResult.senderDeviceId.toInt.toNat
          isUDMessage := true } := by
  unfold unidentifiedSenderResult
  by_cases hvalid : decrypter.isValidE164 decryptResult.senderRecipientId = true
  · have hlength := length_pos_of_isValidE164 hvalid
    by_cases hdevice : 1 ≤ decryptResult.senderDeviceId.toInt ∧
        decryptResult.senderDeviceId.toInt ≤ 4294967295
    · have hrange : ¬decryptResult.senderDeviceId.toInt < 1 ∧
          ¬4294967295 < decryptResult.senderDeviceId.toInt := by omega
      simp only [hlength, hvalid, hrange.1, hrange.2, decide_false, Bool.not_true, Bool.or_false,
        Bool.false_eq_true, if_false, hdevice, and_self, true_and, Option.bind_eq_bind,
        Option.bind_eq_some_iff, Option.pure_def, Option.some.injEq]
      exact exists_congr fun newEnvelopeData => and_congr_right fun _ => eq_comm
    · have hrange : (decide (decryptResult.senderDeviceId.toInt < 1) ||
          decide (4294967295 < decryptResult.senderDeviceId.toInt)) = true := by
        simp only [Bool.or_eq_true, decide_eq_true_eq]
        omega
      simp [hlength, hvalid, hrange, hdevice]
  · simp [hvalid]

/-- A result that `successBlock` hands over, as the verdict says. -/
theorem verdict_eq_success {localRecipientId : Option String}
    {result handedOver : OWSMessageDecryptResult} :
    decrypter.verdict envelope localRecipientId result = .success handedOver ↔
      decrypter.isEnvelopeSenderBlocked envelope = false ∧
        isSelfSent localRecipientId result = false ∧ result = handedOver := by
  unfold verdict
  cases decrypter.isEnvelopeSenderBlocked envelope <;>
    cases isSelfSent localRecipientId result <;> simp

/-- **The call delivers a blocked source exactly when the envelope opens to a
blocked sender.** -/
theorem CallMade.discards_iff (h : decrypter.CallMade envelope world call) :
    decrypter.DiscardsBlockedSenders [call] ↔
      ∀ decryptResult, ¬decrypter.OpensToBlockedSender envelope world decryptResult := by
  simp only [DiscardsBlockedSenders, List.mem_singleton]
  cases h with
  | failed hnone =>
      simp only [reduceCtorEq, false_imp_iff, implies_true, true_iff]
      intro decryptResult opens
      obtain ⟨newEnvelopeData, hrebuilt⟩ := Option.isSome_iff_exists.mp opens.rebuilt
      rw [opens.authenticated, Option.bind_some,
        unidentifiedSenderResult_eq_some.mpr ⟨opens.validSource, opens.validDevice, _, hrebuilt,
          rfl⟩] at hnone
      simp at hnone
  | @identified result hsource htype hblocked =>
      -- An identified envelope authenticates nobody, and its own source is not blocked.
      constructor
      · intro _ decryptResult opens
        have hnone := opens.authenticated
        rw [authenticated_of_identified htype] at hnone
        simp at hnone
      · rintro - handedOver source hcall hhas hmem
        obtain ⟨-, -, rfl⟩ := verdict_eq_success.mp hcall.symm
        rw [hsource] at hhas
        simp [isEnvelopeSenderBlocked, hhas, hmem] at hblocked
  | @unidentified decryptResult result hauthenticated hresult =>
      obtain ⟨hvalid, hdevice, newEnvelopeData, hrebuilt, rfl⟩ :=
        unidentifiedSenderResult_eq_some.mp hresult
      -- What the verdict calls sent by oneself is what the definition does: from the primary
      -- device.
      have hself : isSelfSent world.stores.localNumber {
            envelopeData := newEnvelopeData
            plaintextData := some (removePadding decryptResult.paddedPayload)
            source := some decryptResult.senderRecipientId
            sourceDevice := .ofNat decryptResult.senderDeviceId.toInt.toNat
            isUDMessage := true } = false ↔
          ¬(world.stores.localNumber = some decryptResult.senderRecipientId ∧
            decryptResult.senderDeviceId.toInt = 1) := by
        have hprimary := ofNat_eq_primaryDevice_iff hdevice.1 hdevice.2
        have hcomm : some decryptResult.senderRecipientId = world.stores.localNumber ↔
            world.stores.localNumber = some decryptResult.senderRecipientId := eq_comm
        simp only [isSelfSent, ← Bool.not_eq_true, Option.isSome_some, Bool.true_and,
          Bool.and_eq_true, beq_iff_eq, hprimary, hcomm]
      constructor
      · intro hdiscards found opens
        obtain rfl : decryptResult = found :=
          Option.some.inj (hauthenticated.symm.trans opens.authenticated)
        exact hdiscards _ _ (verdict_eq_success.mpr
          ⟨opens.outerSource, hself.mpr opens.notSelf, rfl⟩).symm rfl opens.blocked
      · rintro hopens handedOver source hcall hhas hmem
        obtain ⟨houter, hnotSelf, rfl⟩ := verdict_eq_success.mp hcall.symm
        obtain rfl : decryptResult.senderRecipientId = source := Option.some.inj hhas
        exact hopens decryptResult ⟨hauthenticated, hmem, houter, hvalid, hdevice,
          hself.mp hnotSelf, by rw [hrebuilt]; rfl⟩

/-- **Exactly one block is called, and blocked senders are discarded**, exactly when the
cipher's exception, if any, is reported and the envelope does not open to a blocked sender. -/
theorem discardsBlockedSenders_iff (envelopeData : NSData) (result : Except Failure Unit)
    (delivery' : Delivery)
    (h : (decrypter.decryptEnvelope P envelope envelopeData).run ⟨world, []⟩ =
      (result, delivery'))
    (survives : Survives result) :
    (delivery'.calls.length = 1 ∧ decrypter.DiscardsBlockedSenders delivery'.calls) ↔
      ¬decrypter.IsUnreported envelope world ∧
        ∀ decryptResult, ¬decrypter.OpensToBlockedSender envelope world decryptResult := by
  by_cases hunreported : decrypter.IsUnreported envelope world
  · rw [calls_of_isUnreported hunreported h]
    exact iff_of_false (fun hone => nomatch hone.1) (fun hreported => hreported.1 hunreported)
  · obtain rfl := returns_decryptEnvelope h survives hunreported
    obtain ⟨call, hcall, hcalls⟩ := run_decryptEnvelope h
    rw [hcalls, List.length_singleton, and_iff_right rfl, and_iff_right hunreported]
    exact hcall.discards_iff

/-! ## Two envelopes -/

/-- A decrypter that blocks `"+3"`, and whose sealed-sender cipher finds every
message to come from device `1` of `sender`. -/
def sampleDecrypter (sender : String) : OWSMessageDecrypter where
  blockedPhoneNumbers := ["+3"]
  isDecimalDigit := Char.isDigit
  secretSessionCipher := some ⟨fun _ _ _ _ => pure (some ⟨sender, 1, [1, 2, 3, 0x80]⟩)⟩
  buildSerializedData _ := some []

/-- An envelope with the first message of the contact `"+1"` as its content. -/
def sampleEnvelope (type : SSKProtoEnvelopeType) (source : Option String) : SSKProtoEnvelope where
  type := type
  timestamp := 1
  source := source
  sourceDevice := source.map fun _ => 1
  relay := none
  legacyMessage := none
  content := some (sampleFirstMessage (sampleBundle (-1) none)).serialized
  serverGuid := none
  serverTimestamp := some 1

/-- The first message of a contact is handed over. -/
theorem discardsBlockedSenders_sample :
    (((sampleDecrypter "+1").decryptEnvelope additivePrimitives
        (sampleEnvelope .prekeyBundle (some "+1")) []).run
      ⟨⟨sampleStores none none, 0, 0⟩, []⟩).2.calls.length = 1 ∧
    (sampleDecrypter "+1").DiscardsBlockedSenders
      (((sampleDecrypter "+1").decryptEnvelope additivePrimitives
        (sampleEnvelope .prekeyBundle (some "+1")) []).run
      ⟨⟨sampleStores none none, 0, 0⟩, []⟩).2.calls := by
  have hok : (((sampleDecrypter "+1").decryptEnvelope additivePrimitives
      (sampleEnvelope .prekeyBundle (some "+1")) []).run
        ⟨⟨sampleStores none none, 0, 0⟩, []⟩).1 = .ok () := by decide +kernel
  rcases hrun : ((sampleDecrypter "+1").decryptEnvelope additivePrimitives
      (sampleEnvelope .prekeyBundle (some "+1")) []).run
        ⟨⟨sampleStores none none, 0, 0⟩, []⟩ with ⟨result, delivery'⟩
  rw [hrun] at hok
  obtain rfl := hok
  refine (discardsBlockedSenders_iff [] _ delivery' hrun (fun _ => by simp)).mpr
    ⟨fun hunreported => (nomatch hunreported.1), fun decryptResult opens => ?_⟩
  have hnone := opens.authenticated
  rw [authenticated_of_identified (by decide)] at hnone
  simp at hnone

theorem not_discardsBlockedSenders_of_unidentifiedSender :
    ¬∀ (P : Primitives) (decrypter : OWSMessageDecrypter) (envelope : SSKProtoEnvelope)
      (envelopeData : NSData) (world : World) (result : Except Failure Unit)
      (delivery' : Delivery),
      (envelope.type = .unidentifiedSender → envelope.source = none) →
      (decrypter.decryptEnvelope P envelope envelopeData).run ⟨world, []⟩ =
        (result, delivery') →
      Survives result →
      delivery'.calls.length = 1 ∧ decrypter.DiscardsBlockedSenders delivery'.calls := by
  intro hdiscards
  let envelope := sampleEnvelope .unidentifiedSender none
  let world : World := ⟨sampleStores none none, 0, 0⟩
  have hdiscards := (hdiscards additivePrimitives (sampleDecrypter "+3") envelope [] world (.ok ())
    _ (fun _ => rfl) rfl (fun _ => by simp)).2
  exact hdiscards _ _ (List.mem_singleton_self _) rfl (by decide)

end ObjcSwiftLearning.SignalServiceKit.OWSMessageDecrypter
