import ObjcSwiftLearning.Library.LabelledRun
import ObjcSwiftLearning.Library.OrderedSet
import ObjcSwiftLearning.SignalServiceKit.MessageSend
import ObjcSwiftLearning.SignalServiceKit.Stores

/-!
# The devices of a recipient

A message is sent to each device of the `SignalRecipient`.  The service answers with 409 if it
knows other devices than those, with 410 if one of them has a new identity, and a prekey fetch
with 404 if a device is gone; each time the set of devices and the sessions are repaired, and the
next attempt is made with what is left.

* `DeviceRepair` — the recipient object of a send, the stored recipients and the stores.
* `handleMismatchedDevicesWithResponseJson`, `handleStaleDevicesWithResponseJson`,
  `deviceMessages` — what a 409, a 410 and an attempt do to them.
* `DeviceRepair.repairsDevices` — **what holds after each of them** in every run of one send.
-/

namespace ObjcSwiftLearning.SignalServiceKit

open AxolotlKit

/-! ## The recipient, and what is stored of it -/

/-- `SignalRecipient`; a device id is a number. -/
structure SignalRecipient where
  recipientId : String
  devices : OrderedSet ℤ

def SignalRecipient.addDevices (recipient : SignalRecipient) (localNumber : Option String)
    (devices : List ℤ) : SignalRecipient :=
  if localNumber = some recipient.recipientId ∧ OWSDevicePrimaryDeviceId ∈ devices then recipient
  else { recipient with devices := recipient.devices.union devices }

def SignalRecipient.removeDevices (recipient : SignalRecipient) (devices : List ℤ) :
    SignalRecipient :=
  { recipient with devices := recipient.devices.minus devices }

/-- `deleteSessionForContact:deviceId:protocolContext:`. -/
def Stores.deleteSessionForContact (stores : Stores) (recipientId : String) (deviceId : Int32) :
    Stores :=
  { stores with
    sessions := fun contactIdentifier device =>
      if contactIdentifier = recipientId ∧ device = deviceId then none
      else stores.sessions contactIdentifier device }

/-- `deleteSessionForContact:` for each of some devices, by their `intValue`. -/
def Stores.deleteSessionsForContact (stores : Stores) (recipientId : String)
    (deviceIds : List ℤ) : Stores :=
  deviceIds.foldl (fun stores deviceId =>
    stores.deleteSessionForContact recipientId (Int32.ofInt deviceId)) stores

/-- What a response lists; none if that raises. -/
def DeviceListJson.ids : Option DeviceListJson → Option (List ℤ)
  | none => some []
  | some (.devices ids) => some ids
  | some .other => none

/-- What the send to one recipient repairs. -/
structure DeviceRepair where
  /-- The `recipient` of the `OWSMessageSend`. -/
  recipient : SignalRecipient
  /-- The devices of the stored `SignalRecipient`s, by their recipient ids. -/
  recipients : String → Option (OrderedSet ℤ)
  stores : Stores
  /-- `[TSAccountManager localNumber]`. -/
  localNumber : Option String
  mayHaveLinkedDevices : Bool

namespace DeviceRepair

variable (s : DeviceRepair)

/-- `isLocalNumber` of the send. -/
def isLocalNumber : Bool := s.localNumber == some s.recipient.recipientId

/-- `reloadWithTransaction:`. -/
def reload : DeviceRepair :=
  match s.recipients s.recipient.recipientId with
  | none => s
  | some devices => { s with recipient := { s.recipient with devices } }

/-- `saveWithTransaction_internal:`. -/
def save : DeviceRepair :=
  { s with
    recipients :=
      Function.update s.recipients s.recipient.recipientId (some s.recipient.devices) }

def addDevicesToRegisteredRecipient (devices : List ℤ) : DeviceRepair :=
  { s.reload with
    recipient := s.reload.recipient.addDevices s.localNumber devices }.save

def removeDevicesFromRecipient (devices : List ℤ) : DeviceRepair :=
  { s.reload with recipient := s.reload.recipient.removeDevices devices }.save

def updateRegisteredRecipient (devicesToAdd devicesToRemove : List ℤ) : DeviceRepair :=
  let s := if 0 < devicesToAdd.length then s.addDevicesToRegisteredRecipient devicesToAdd else s
  if 0 < devicesToRemove.length then s.removeDevicesFromRecipient devicesToRemove else s

/-! ## The answers of the service -/

/-- `handleMismatchedDevicesWithResponseJson:recipient:completion:`, for what the response
lists. -/
def handleMismatched (missingDevices extraDevices : List ℤ) : DeviceRepair :=
  let s :=
    if 0 < missingDevices.length ∧ s.isLocalNumber then { s with mayHaveLinkedDevices := true }
    else s
  let s := s.updateRegisteredRecipient missingDevices extraDevices
  { s with
    stores := s.stores.deleteSessionsForContact s.recipient.recipientId extraDevices }

/-- `handleMismatchedDevicesWithResponseJson:recipient:completion:`; none if it raises. -/
def handleMismatchedDevicesWithResponseJson (responseJson : ResponseJson) : Option DeviceRepair :=
  match DeviceListJson.ids responseJson.missingDevices,
    DeviceListJson.ids responseJson.extraDevices with
  | some missingDevices, some extraDevices =>
      some (s.handleMismatched missingDevices extraDevices)
  | _, _ => none

/-- `handleStaleDevicesWithResponseJson:recipientId:completion:`; none if it raises. -/
def handleStaleDevicesWithResponseJson (responseJson : ResponseJson) : Option DeviceRepair :=
  match DeviceListJson.ids responseJson.staleDevices with
  | none => none
  | some devices =>
      some
        { s with
          stores := s.stores.deleteSessionsForContact s.recipient.recipientId devices }

/-! ## An attempt -/

inductive PrekeyAnswer where
  | bundle
  | noBundle
  | failure (statusCode : ℕ)
  deriving DecidableEq

/-- What an attempt meets as it builds its device messages. -/
structure DeviceEnvironment where
  buildsPlainText : Bool
  prekeyRequest : ℤ → PrekeyAnswer
  /-- `throws_processPrekeyBundle:protocolContext:`, and what it leaves of the stores. -/
  processPrekeyBundle : Stores → Int32 → Option DeviceMessagesException × Stores
  /-- What `throws_encryptedMessageForMessageSend:…` does once it has found a session. -/
  encrypt : Stores → Int32 → Option DeviceMessagesException × Stores

/-- How the building of one device message ends. -/
inductive DeviceOutcome where
  | message (deviceMessage : DeviceMessage)
  /-- `OWSMessageSenderInvalidDeviceException`. -/
  | invalidDevice
  | raises (exception : DeviceMessagesException)
  deriving DecidableEq

/-- `throws_ensureRecipientHasSessionForMessageSend:deviceId:`; the outcome is none if nothing is
raised. -/
def ensureRecipientHasSession (environment : DeviceEnvironment) (deviceId : ℤ) :
    Option DeviceOutcome × DeviceRepair :=
  if s.stores.containsSession s.recipient.recipientId (Int32.ofInt deviceId) then (none, s)
  else
    match environment.prekeyRequest deviceId with
    | .failure statusCode =>
        if statusCode = 404 then (some .invalidDevice, s)
        else if statusCode = 413 then (some (.raises .rateLimited), s)
        else (some (.raises .other), s)
    | .noBundle => (some (.raises .other), s)
    | .bundle =>
        let result := environment.processPrekeyBundle s.stores (Int32.ofInt deviceId)
        (result.1.map .raises, { s with stores := result.2 })

def messageFor (deviceId : ℤ) : DeviceMessage where
  destination := some s.recipient.recipientId
  destinationDeviceId := some (Int32.ofInt deviceId).toInt

/-- `throws_encryptedMessageForMessageSend:deviceId:plainText:transaction:`. -/
def encryptedMessage (environment : DeviceEnvironment) (deviceId : ℤ) :
    DeviceOutcome × DeviceRepair :=
  if s.stores.containsSession s.recipient.recipientId (Int32.ofInt deviceId) then
    let result := environment.encrypt s.stores (Int32.ofInt deviceId)
    match result.1 with
    | some exception => (.raises exception, { s with stores := result.2 })
    | none => (.message (s.messageFor deviceId), { s with stores := result.2 })
  else (.raises .other, s)

def deviceMessage (environment : DeviceEnvironment) (deviceId : ℤ) :
    DeviceOutcome × DeviceRepair :=
  match s.ensureRecipientHasSession environment deviceId with
  | (some outcome, s) => (outcome, s)
  | (none, s) => s.encryptedMessage environment deviceId

/-- The loop of `throws_deviceMessagesForMessageSendUnsafe:`. -/
def deviceMessages (environment : DeviceEnvironment) :
    List ℤ → DeviceRepair → Except DeviceMessagesException (List DeviceMessage) × DeviceRepair
  | [], s => (.ok [], s)
  | deviceId :: deviceIds, s =>
      match s.deviceMessage environment deviceId with
      | (.raises exception, s) => (.error exception, s)
      | (.invalidDevice, s) =>
          deviceMessages environment deviceIds (s.updateRegisteredRecipient [] [deviceId])
      | (.message deviceMessage, s) =>
          match deviceMessages environment deviceIds s with
          | (.error exception, s) => (.error exception, s)
          | (.ok messages, s) => (.ok (deviceMessage :: messages), s)

/-- The `deviceIds` that an attempt goes through. -/
def deviceIds (isUDSend : Bool) : OrderedSet ℤ :=
  if isUDSend && s.isLocalNumber then s.recipient.devices.add OWSDevicePrimaryDeviceId
  else s.recipient.devices

/-- `throws_deviceMessagesForMessageSendUnsafe:`. -/
def deviceMessagesForMessageSend (environment : DeviceEnvironment) (isUDSend : Bool) :
    Except DeviceMessagesException (List DeviceMessage) × DeviceRepair :=
  if environment.buildsPlainText then
    deviceMessages environment (s.deviceIds isUDSend).elements s
  else (.error .other, s)

/-! ## What is known of the devices -/

/-- The devices that are stored, or else those of the object. -/
def lastKnown : OrderedSet ℤ :=
  (s.recipients s.recipient.recipientId).getD s.recipient.devices

/-- The object and what is stored agree. -/
def InStep : Prop := s.recipients s.recipient.recipientId = some s.recipient.devices

/-- Devices that are not added to the recipient, since one of them is this one. -/
def Refuses (devices : List ℤ) : Prop :=
  s.localNumber = some s.recipient.recipientId ∧ OWSDevicePrimaryDeviceId ∈ devices

variable {s} {s' : DeviceRepair} {deviceId : ℤ} {devices : List ℤ}

theorem InStep.lastKnown (h : s.InStep) : s.lastKnown = s.recipient.devices := by
  rw [DeviceRepair.lastKnown, h, Option.getD_some]

structure Updates (s s' : DeviceRepair) : Prop where
  recipientId : s'.recipient.recipientId = s.recipient.recipientId
  recipients : ∀ recipientId, recipientId ≠ s.recipient.recipientId →
    s'.recipients recipientId = s.recipients recipientId
  localNumber : s'.localNumber = s.localNumber

theorem Updates.rfl : s.Updates s := ⟨Eq.refl _, fun _ _ => Eq.refl _, Eq.refl _⟩

theorem Updates.trans {s'' : DeviceRepair} (h : s.Updates s') (h' : s'.Updates s'') :
    s.Updates s'' where
  recipientId := h'.recipientId.trans h.recipientId
  recipients recipientId hne :=
    (h'.recipients recipientId (by rwa [h.recipientId])).trans (h.recipients recipientId hne)
  localNumber := h'.localNumber.trans h.localNumber

def setDevices (s : DeviceRepair) (devices : OrderedSet ℤ) : DeviceRepair :=
  { s with recipient := { s.recipient with devices } }

theorem reload_eq : s.reload = s.setDevices s.lastKnown := by
  rw [reload, lastKnown]
  cases s.recipients s.recipient.recipientId <;> rfl

theorem updates_save (devices : OrderedSet ℤ) : s.Updates (s.setDevices devices).save where
  recipientId := rfl
  recipients _ hne := Function.update_of_ne hne _ _
  localNumber := rfl

theorem inStep_save : s.save.InStep := Function.update_self _ _ _

theorem addDevicesToRegisteredRecipient_eq (s : DeviceRepair) (devices : List ℤ) :
    ∃ updated : OrderedSet ℤ,
      s.addDevicesToRegisteredRecipient devices = (s.setDevices updated).save ∧
      ∀ deviceId, deviceId ∈ updated ↔
        deviceId ∈ s.lastKnown ∨ deviceId ∈ devices ∧ ¬s.Refuses devices := by
  rw [addDevicesToRegisteredRecipient, reload_eq]
  by_cases hrefuses : s.Refuses devices
  · have hsame : (s.setDevices s.lastKnown).recipient.addDevices s.localNumber devices =
        (s.setDevices s.lastKnown).recipient := if_pos hrefuses
    rw [hsame]
    exact ⟨s.lastKnown, rfl, by simp [hrefuses]⟩
  · have hunion : (s.setDevices s.lastKnown).recipient.addDevices s.localNumber devices =
        (s.setDevices (s.lastKnown.union devices)).recipient := if_neg hrefuses
    rw [hunion]
    exact ⟨s.lastKnown.union devices, rfl, by simp [hrefuses]⟩

theorem removeDevicesFromRecipient_eq (s : DeviceRepair) (devices : List ℤ) :
    s.removeDevicesFromRecipient devices =
      (s.setDevices (s.lastKnown.minus devices)).save := by
  rw [removeDevicesFromRecipient, reload_eq]
  rfl

/-- **What an update of the devices does**: it brings the object and what is stored in step, if
it is told of any device. -/
structure Updated (s s' : DeviceRepair) (added removed : List ℤ) : Prop extends s.Updates s' where
  stores : s'.stores = s.stores
  mayHaveLinkedDevices : s'.mayHaveLinkedDevices = s.mayHaveLinkedDevices
  unchanged : added = [] → removed = [] → s' = s
  inStep : added ≠ [] ∨ removed ≠ [] → s'.InStep
  mem_lastKnown : ∀ deviceId, deviceId ∈ s'.lastKnown ↔
    (deviceId ∈ s.lastKnown ∨ deviceId ∈ added ∧ ¬s.Refuses added) ∧ deviceId ∉ removed

theorem updated_added (s : DeviceRepair) (added : List ℤ) :
    Updated s (if 0 < added.length then s.addDevicesToRegisteredRecipient added else s) added
      [] := by
  cases added with
  | nil => exact ⟨.rfl, rfl, rfl, fun _ _ => rfl, by simp, by simp⟩
  | cons first rest =>
      obtain ⟨updated, hadd, hmem⟩ := s.addDevicesToRegisteredRecipient_eq (first :: rest)
      rw [if_pos (by simp), hadd]
      refine ⟨updates_save updated, rfl, rfl, by simp, fun _ => inStep_save, fun deviceId => ?_⟩
      rw [inStep_save.lastKnown, ← hmem]
      simp [save, setDevices]

theorem updated_removed (s : DeviceRepair) (removed : List ℤ) :
    Updated s (if 0 < removed.length then s.removeDevicesFromRecipient removed else s) []
      removed := by
  cases removed with
  | nil => exact ⟨.rfl, rfl, rfl, fun _ _ => rfl, by simp, by simp⟩
  | cons first rest =>
      rw [if_pos (by simp), removeDevicesFromRecipient_eq]
      refine ⟨updates_save _, rfl, rfl, by simp, fun _ => inStep_save, fun deviceId => ?_⟩
      rw [inStep_save.lastKnown]
      simp [save, setDevices]

theorem updated_updateRegisteredRecipient (s : DeviceRepair) (added removed : List ℤ) :
    Updated s (s.updateRegisteredRecipient added removed) added removed := by
  rw [updateRegisteredRecipient]
  have hadded := s.updated_added added
  revert hadded
  generalize (if 0 < added.length then s.addDevicesToRegisteredRecipient added else s) = middle
  intro hadded
  have hremoved := middle.updated_removed removed
  refine ⟨hadded.toUpdates.trans hremoved.toUpdates, hremoved.stores.trans hadded.stores,
    hremoved.mayHaveLinkedDevices.trans hadded.mayHaveLinkedDevices, ?_, ?_, ?_⟩
  · intro hnone hnone'
    rw [hremoved.unchanged rfl hnone', hadded.unchanged hnone rfl]
  · intro hsome
    by_cases hnone : removed = []
    · rw [hremoved.unchanged rfl hnone]
      exact hadded.inStep (.inl (hsome.resolve_right (not_not_intro hnone)))
    · exact hremoved.inStep (.inr hnone)
  · intro deviceId
    rw [hremoved.mem_lastKnown, hadded.mem_lastKnown]
    simp

/-! ## What the answers do -/

structure DeletesSessions (stores stores' : Stores) (recipientId : String) (deviceIds : List ℤ) :
    Prop where
  deleted : ∀ deviceId ∈ deviceIds, stores'.sessions recipientId (Int32.ofInt deviceId) = none
  untouched : ∀ contactIdentifier device,
    ¬(contactIdentifier = recipientId ∧ ∃ deviceId ∈ deviceIds, device = Int32.ofInt deviceId) →
      stores'.sessions contactIdentifier device = stores.sessions contactIdentifier device
  rest : { stores' with sessions := stores.sessions } = stores

theorem deletesSessions (stores : Stores) (recipientId : String) (deviceIds : List ℤ) :
    DeletesSessions stores (stores.deleteSessionsForContact recipientId deviceIds) recipientId
      deviceIds := by
  induction deviceIds generalizing stores with
  | nil => exact ⟨by simp, fun _ _ _ => rfl, rfl⟩
  | cons first deviceIds ih =>
      have hrest := ih (stores.deleteSessionForContact recipientId (Int32.ofInt first))
      refine ⟨fun deviceId hmem => ?_, fun contactIdentifier device hother => ?_, ?_⟩
      · by_cases hlater : ∃ later ∈ deviceIds, Int32.ofInt deviceId = Int32.ofInt later
        · obtain ⟨later, hlater, heq⟩ := hlater
          rw [heq]
          exact hrest.deleted later hlater
        · have hfirst : deviceId = first := by
            rcases List.mem_cons.mp hmem with rfl | hin
            · rfl
            · exact absurd ⟨deviceId, hin, rfl⟩ hlater
          rw [Stores.deleteSessionsForContact, List.foldl_cons]
          refine (hrest.untouched recipientId _ fun h => hlater h.2).trans ?_
          exact if_pos ⟨rfl, by rw [hfirst]⟩
      · rw [Stores.deleteSessionsForContact, List.foldl_cons]
        refine (hrest.untouched contactIdentifier device ?_).trans (if_neg ?_)
        · rintro ⟨rfl, later, hlater, rfl⟩
          exact hother ⟨rfl, later, List.mem_cons_of_mem first hlater, rfl⟩
        · rintro ⟨rfl, rfl⟩
          exact hother ⟨rfl, first, List.mem_cons_self, rfl⟩
      · rw [Stores.deleteSessionsForContact, List.foldl_cons]
        have hstores := hrest.rest
        rw [Stores.deleteSessionsForContact] at hstores
        have hinner := congrArg (fun inner : Stores => { inner with sessions := stores.sessions })
          hstores
        exact hinner

/-- **What a 409 does**: the object and what is stored get the missing devices, unless those are
refused, and lose the extra ones, whose sessions are deleted. -/
structure RepairsMismatch (s s' : DeviceRepair) (missingDevices extraDevices : List ℤ) : Prop
    extends s.Updates s' where
  unchanged : missingDevices = [] → extraDevices = [] →
    s'.recipient = s.recipient ∧ s'.recipients = s.recipients
  inStep : missingDevices ≠ [] ∨ extraDevices ≠ [] → s'.InStep
  mem_devices : missingDevices ≠ [] ∨ extraDevices ≠ [] → ∀ deviceId,
    deviceId ∈ s'.recipient.devices ↔
      (deviceId ∈ s.lastKnown ∨ deviceId ∈ missingDevices ∧ ¬s.Refuses missingDevices) ∧
        deviceId ∉ extraDevices
  sessions : DeletesSessions s.stores s'.stores s.recipient.recipientId extraDevices

theorem repairsMismatch (s : DeviceRepair) (missingDevices extraDevices : List ℤ) :
    RepairsMismatch s (s.handleMismatched missingDevices extraDevices) missingDevices
      extraDevices := by
  rw [handleMismatched]
  have hmiddle : ∃ mayHaveLinkedDevices,
      (if 0 < missingDevices.length ∧ s.isLocalNumber then
        { s with mayHaveLinkedDevices := true } else s) = { s with mayHaveLinkedDevices } := by
    split
    · exact ⟨true, rfl⟩
    · exact ⟨s.mayHaveLinkedDevices, rfl⟩
  obtain ⟨mayHaveLinkedDevices, hmiddle⟩ := hmiddle
  rw [hmiddle]
  have hupdated := updated_updateRegisteredRecipient { s with mayHaveLinkedDevices } missingDevices
    extraDevices
  revert hupdated
  generalize DeviceRepair.updateRegisteredRecipient _ missingDevices extraDevices = s'
  intro hupdated
  refine ⟨{ hupdated with }, ?_, hupdated.inStep,
    ?_, ?_⟩
  · intro hnone hnone'
    rw [hupdated.unchanged hnone hnone']
    exact ⟨rfl, rfl⟩
  · intro hsome deviceId
    have hmem := hupdated.mem_lastKnown deviceId
    rwa [(hupdated.inStep hsome).lastKnown] at hmem
  · have hsessions := deletesSessions s'.stores s'.recipient.recipientId extraDevices
    rw [hupdated.stores, hupdated.recipientId] at hsessions
    rw [hupdated.stores, hupdated.recipientId]
    exact hsessions

/-- **What a 410 does**: the sessions of the stale devices are deleted. -/
structure RepairsStale (s s' : DeviceRepair) (staleDevices : List ℤ) : Prop where
  recipient : s'.recipient = s.recipient
  recipients : s'.recipients = s.recipients
  localNumber : s'.localNumber = s.localNumber
  sessions : DeletesSessions s.stores s'.stores s.recipient.recipientId staleDevices

/-! ## What an attempt does -/

variable {environment : DeviceEnvironment}

/-- The devices that the loop comes to, each with what there is by then. -/
def reached (environment : DeviceEnvironment) : List ℤ → DeviceRepair → List (ℤ × DeviceRepair)
  | [], _ => []
  | deviceId :: deviceIds, s =>
      (deviceId, s) :: match s.deviceMessage environment deviceId with
        | (.raises _, _) => []
        | (.invalidDevice, s) =>
            reached environment deviceIds (s.updateRegisteredRecipient [] [deviceId])
        | (.message _, s) => reached environment deviceIds s

/-- There is no session, and the prekey fetch is answered with 404. -/
def IsGone (s : DeviceRepair) (environment : DeviceEnvironment) (deviceId : ℤ) : Prop :=
  ¬s.stores.containsSession s.recipient.recipientId (Int32.ofInt deviceId) ∧
    environment.prekeyRequest deviceId = .failure 404

instance (s : DeviceRepair) (environment : DeviceEnvironment) (deviceId : ℤ) :
    Decidable (s.IsGone environment deviceId) :=
  inferInstanceAs (Decidable (_ ∧ _))

/-- The devices that the loop finds gone. -/
def goneDevices (environment : DeviceEnvironment) (deviceIds : List ℤ) (s : DeviceRepair) :
    List ℤ :=
  ((reached environment deviceIds s).filter fun visit => visit.2.IsGone environment visit.1).map
    Prod.fst

/-- The kit is at work on the stores only. -/
structure KeepsDevices (s s' : DeviceRepair) : Prop where
  recipient : s'.recipient = s.recipient
  recipients : s'.recipients = s.recipients
  localNumber : s'.localNumber = s.localNumber

theorem KeepsDevices.trans {s'' : DeviceRepair} (h : s.KeepsDevices s')
    (h' : s'.KeepsDevices s'') : s.KeepsDevices s'' :=
  ⟨h'.recipient.trans h.recipient, h'.recipients.trans h.recipients,
    h'.localNumber.trans h.localNumber⟩

theorem KeepsDevices.lastKnown (h : s.KeepsDevices s') : s'.lastKnown = s.lastKnown := by
  rw [DeviceRepair.lastKnown, DeviceRepair.lastKnown, h.recipient, h.recipients]

section

variable (s : DeviceRepair) (environment : DeviceEnvironment) (deviceId : ℤ)

theorem ensureRecipientHasSession_cases :
    s.KeepsDevices (s.ensureRecipientHasSession environment deviceId).2 ∧
      ((s.ensureRecipientHasSession environment deviceId).1 = none ∧
          ¬s.IsGone environment deviceId ∨
        (s.ensureRecipientHasSession environment deviceId).1 = some .invalidDevice ∧
          s.IsGone environment deviceId ∨
        ∃ exception,
          (s.ensureRecipientHasSession environment deviceId).1 = some (.raises exception) ∧
            ¬s.IsGone environment deviceId) := by
  have hkeeps : ∀ stores : Stores, s.KeepsDevices { s with stores } := fun _ => ⟨rfl, rfl, rfl⟩
  rw [ensureRecipientHasSession]
  split
  · next hsession => exact ⟨hkeeps s.stores, .inl ⟨rfl, fun hgone => hgone.1 hsession⟩⟩
  · next hsession =>
    -- It depends on the answer only.
    have hgone : s.IsGone environment deviceId ↔
        environment.prekeyRequest deviceId = .failure 404 := and_iff_right hsession
    rw [hgone]
    split
    · rename_i statusCode hanswer
      rw [hanswer, PrekeyAnswer.failure.injEq]
      split
      · rename_i h404
        exact ⟨hkeeps s.stores, .inr (.inl ⟨rfl, h404⟩)⟩
      · rename_i h404
        split
        · exact ⟨hkeeps s.stores, .inr (.inr ⟨_, rfl, h404⟩)⟩
        · exact ⟨hkeeps s.stores, .inr (.inr ⟨_, rfl, h404⟩)⟩
    · rename_i hanswer
      exact ⟨hkeeps s.stores, .inr (.inr ⟨_, rfl, by rw [hanswer]; nofun⟩)⟩
    · rename_i hanswer
      rw [hanswer]
      generalize environment.processPrekeyBundle s.stores (Int32.ofInt deviceId) = result
      obtain ⟨raised, stores⟩ := result
      cases raised with
      | none => exact ⟨hkeeps stores, .inl ⟨rfl, nofun⟩⟩
      | some exception => exact ⟨hkeeps stores, .inr (.inr ⟨exception, rfl, nofun⟩)⟩

theorem encryptedMessage_cases :
    s.KeepsDevices (s.encryptedMessage environment deviceId).2 ∧
      ((s.encryptedMessage environment deviceId).1 = .message (s.messageFor deviceId) ∨
        ∃ exception, (s.encryptedMessage environment deviceId).1 = .raises exception) := by
  have hkeeps : ∀ stores : Stores, s.KeepsDevices { s with stores } := fun _ => ⟨rfl, rfl, rfl⟩
  rw [encryptedMessage]
  split
  · dsimp only
    split
    · exact ⟨hkeeps _, .inr ⟨_, rfl⟩⟩
    · exact ⟨hkeeps _, .inl rfl⟩
  · exact ⟨hkeeps s.stores, .inr ⟨_, rfl⟩⟩

/-- **A device** gets its message, or is gone, or the attempt is given up. -/
theorem deviceMessage_cases :
    s.KeepsDevices (s.deviceMessage environment deviceId).2 ∧
      ((s.deviceMessage environment deviceId).1 = .message (s.messageFor deviceId) ∧
          ¬s.IsGone environment deviceId ∨
        (s.deviceMessage environment deviceId).1 = .invalidDevice ∧
          s.IsGone environment deviceId ∨
        ∃ exception, (s.deviceMessage environment deviceId).1 = .raises exception ∧
          ¬s.IsGone environment deviceId) := by
  obtain ⟨hkeeps, houtcome⟩ := s.ensureRecipientHasSession_cases environment deviceId
  rw [deviceMessage]
  revert hkeeps houtcome
  generalize s.ensureRecipientHasSession environment deviceId = result
  obtain ⟨outcome, middle⟩ := result
  rintro hkeeps (⟨hnone, hthere⟩ | ⟨hinvalid, hgone⟩ | ⟨exception, hraises, hthere⟩)
  · obtain rfl : outcome = none := hnone
    obtain ⟨hkeeps', hmessage | ⟨exception, hraises⟩⟩ :=
      middle.encryptedMessage_cases environment deviceId
    · refine ⟨hkeeps.trans hkeeps', .inl ⟨hmessage.trans ?_, hthere⟩⟩
      rw [messageFor, messageFor, hkeeps.recipient]
    · exact ⟨hkeeps.trans hkeeps', .inr (.inr ⟨exception, hraises, hthere⟩)⟩
  · obtain rfl : outcome = some .invalidDevice := hinvalid
    exact ⟨hkeeps, .inr (.inl ⟨rfl, hgone⟩)⟩
  · obtain rfl : outcome = some (.raises exception) := hraises
    exact ⟨hkeeps, .inr (.inr ⟨exception, rfl, hthere⟩)⟩

end

/-- **What an attempt does**: the invalid devices are removed, and if it is not given up every other
gets one message. -/
structure BuildsMessages (s s' : DeviceRepair) (deviceIds : List ℤ)
    (result : Except DeviceMessagesException (List DeviceMessage))
    (invalidDevices : List ℤ) : Prop extends s.Updates s' where
  invalid : ∀ deviceId ∈ invalidDevices, deviceId ∈ deviceIds
  messages_eq : ∀ messages, result = .ok messages →
    messages = (deviceIds.filter (· ∉ invalidDevices)).map s.messageFor
  unchanged : invalidDevices = [] → s'.recipient = s.recipient ∧ s'.recipients = s.recipients
  inStep : invalidDevices ≠ [] → s'.InStep
  mem_lastKnown : ∀ deviceId, deviceId ∈ s'.lastKnown ↔
    deviceId ∈ s.lastKnown ∧ deviceId ∉ invalidDevices

theorem KeepsDevices.updates (h : s.KeepsDevices s') : s.Updates s' where
  recipientId := by rw [h.recipient]
  recipients _ _ := by rw [h.recipients]
  localNumber := h.localNumber

/-- Nothing has been removed, and no result promised. -/
theorem KeepsDevices.buildsNone (h : s.KeepsDevices s') (deviceIds : List ℤ)
    (exception : DeviceMessagesException) :
    BuildsMessages s s' deviceIds (.error exception) [] where
  toUpdates := h.updates
  invalid := by simp
  messages_eq := by simp
  unchanged _ := ⟨h.recipient, h.recipients⟩
  inStep := by simp
  mem_lastKnown deviceId := by simp [h.lastKnown]

variable {s'' : DeviceRepair} {deviceIds invalidDevices : List ℤ}
  {result : Except DeviceMessagesException (List DeviceMessage)}

theorem BuildsMessages.message (keeps : s.KeepsDevices s')
    (h : BuildsMessages s' s'' deviceIds result invalidDevices)
    (hnew : deviceId ∉ deviceIds) :
    BuildsMessages s s'' (deviceId :: deviceIds)
      (result.map (s.messageFor deviceId :: ·)) invalidDevices where
  toUpdates := keeps.updates.trans h.toUpdates
  invalid other hother := List.mem_cons_of_mem deviceId (h.invalid other hother)
  messages_eq := by
    intro messages hresult
    cases result with
    | error exception => cases hresult
    | ok rest =>
        have hvalid : deviceId ∉ invalidDevices := fun hmem => hnew (h.invalid deviceId hmem)
        have hmessageFor : s'.messageFor = s.messageFor := by
          funext other
          rw [messageFor, messageFor, keeps.recipient]
        rw [← Except.ok.inj hresult, h.messages_eq rest rfl, hmessageFor,
          List.filter_cons_of_pos (by simpa using hvalid), List.map_cons]
  unchanged hnone :=
    ⟨(h.unchanged hnone).1.trans keeps.recipient, (h.unchanged hnone).2.trans keeps.recipients⟩
  inStep := h.inStep
  mem_lastKnown other := by rw [h.mem_lastKnown, keeps.lastKnown]

theorem BuildsMessages.invalidDevice (keeps : s.KeepsDevices s')
    (h : BuildsMessages (s'.updateRegisteredRecipient [] [deviceId]) s'' deviceIds result
      invalidDevices) (hnew : deviceId ∉ deviceIds) :
    BuildsMessages s s'' (deviceId :: deviceIds) result
      (deviceId :: invalidDevices) := by
  have hupdated := updated_updateRegisteredRecipient s' [] [deviceId]
  revert hupdated h
  generalize s'.updateRegisteredRecipient [] [deviceId] = middle
  intro h hupdated
  have hinStep : s''.InStep := by
    by_cases hnone : invalidDevices = []
    · have hmiddle := hupdated.inStep (.inr (List.cons_ne_nil _ _))
      rw [InStep, (h.unchanged hnone).1, (h.unchanged hnone).2]
      exact hmiddle
    · exact h.inStep hnone
  refine ⟨keeps.updates.trans (hupdated.toUpdates.trans h.toUpdates), ?_, ?_, by simp,
    fun _ => hinStep, fun other => ?_⟩
  · intro other hother
    rcases List.mem_cons.mp hother with rfl | hlater
    · exact List.mem_cons_self
    · exact List.mem_cons_of_mem deviceId (h.invalid other hlater)
  · intro messages hresult
    have hmessageFor : middle.messageFor = s.messageFor := by
      funext other
      rw [messageFor, messageFor, hupdated.recipientId, keeps.recipient]
    rw [h.messages_eq messages hresult, hmessageFor, List.filter_cons_of_neg (by simp)]
    refine congrArg _ (List.filter_congr fun other hother => ?_)
    have hne : other ≠ deviceId := by
      rintro rfl
      exact hnew hother
    simp [hne]
  · rw [h.mem_lastKnown, hupdated.mem_lastKnown, keeps.lastKnown]
    simp
    tauto

theorem goneDevices_cons :
    goneDevices environment (deviceId :: deviceIds) s =
      (if s.IsGone environment deviceId then [deviceId] else []) ++
        match s.deviceMessage environment deviceId with
        | (.raises _, _) => []
        | (.invalidDevice, s) =>
            goneDevices environment deviceIds (s.updateRegisteredRecipient [] [deviceId])
        | (.message _, s) => goneDevices environment deviceIds s := by
  rw [goneDevices, reached, List.filter_cons]
  by_cases hgone : s.IsGone environment deviceId
  · simp only [hgone, decide_true, if_true, List.map_cons, List.singleton_append]
    split <;> rfl
  · simp only [hgone, decide_false, Bool.false_eq_true, if_false, List.nil_append]
    split <;> rfl

/-- **The loop over the devices.** -/
theorem deviceMessages_builds (environment : DeviceEnvironment) (hnodup : deviceIds.Nodup) :
    BuildsMessages s (deviceMessages environment deviceIds s).2 deviceIds
      (deviceMessages environment deviceIds s).1 (goneDevices environment deviceIds s) := by
  induction deviceIds generalizing s with
  | nil =>
      refine ⟨.rfl, by simp [goneDevices, reached], ?_, fun _ => ⟨rfl, rfl⟩,
        by simp [goneDevices, reached], by simp [deviceMessages, goneDevices, reached]⟩
      intro messages hresult
      exact (Except.ok.inj hresult).symm
  | cons deviceId deviceIds ih =>
      have hnew := (List.nodup_cons.mp hnodup).1
      have hrest := (List.nodup_cons.mp hnodup).2
      obtain ⟨hkeeps, houtcome⟩ := s.deviceMessage_cases environment deviceId
      rcases hfirst : s.deviceMessage environment deviceId with ⟨outcome, middle⟩
      rw [hfirst] at hkeeps houtcome
      rw [deviceMessages, hfirst]
      rcases houtcome with ⟨hmessage, hthere⟩ | ⟨hinvalid, hgone⟩ | ⟨exception, hraises, hthere⟩
      · obtain rfl : outcome = .message (s.messageFor deviceId) := hmessage
        rw [goneDevices_cons, hfirst, if_neg hthere, List.nil_append]
        have hmessage := (ih (s := middle) hrest).message hkeeps hnew
        dsimp only
        revert hmessage
        generalize deviceMessages environment deviceIds middle = later
        obtain ⟨later, final⟩ := later
        cases later with
        | error exception => exact id
        | ok rest => exact id
      · obtain rfl : outcome = .invalidDevice := hinvalid
        rw [goneDevices_cons, hfirst, if_pos hgone]
        exact (ih (s := middle.updateRegisteredRecipient [] [deviceId]) hrest).invalidDevice
          hkeeps hnew
      · obtain rfl : outcome = .raises exception := hraises
        rw [goneDevices_cons, hfirst, if_neg hthere]
        exact hkeeps.buildsNone _ exception

/-- An attempt is given up only for what a device raises. -/
theorem exists_raises {exception : DeviceMessagesException}
    (herror : (deviceMessages environment deviceIds s).1 = .error exception) :
    ∃ visit ∈ reached environment deviceIds s,
      (visit.2.deviceMessage environment visit.1).1 = .raises exception := by
  induction deviceIds generalizing s with
  | nil => cases herror
  | cons deviceId deviceIds ih =>
      rw [reached]
      rw [deviceMessages] at herror
      rcases hfirst : s.deviceMessage environment deviceId with ⟨outcome, middle⟩
      rw [hfirst] at herror
      cases outcome with
      | raises raised =>
          rw [← Except.error.inj herror]
          exact ⟨_, List.mem_cons_self, congrArg Prod.fst hfirst⟩
      | invalidDevice =>
          obtain ⟨visit, hmem, hraises⟩ := ih herror
          exact ⟨visit, List.mem_cons_of_mem _ hmem, hraises⟩
      | message deviceMessage =>
          dsimp only at herror
          split at herror
          · next raised _ hlater =>
            obtain ⟨visit, hmem, hraises⟩ := ih ((congrArg Prod.fst hlater).trans herror)
            exact ⟨visit, List.mem_cons_of_mem _ hmem, hraises⟩
          · cases herror

/-! ## A send -/

/-- What happens during one send. -/
inductive DeviceEvent where
  | attempt (environment : DeviceEnvironment) (isUDSend : Bool)
      (result : Except DeviceMessagesException (List DeviceMessage))
  /-- The service answers with 409. -/
  | mismatchedDevices (responseJson : ResponseJson)
  /-- The service answers with 410. -/
  | staleDevices (responseJson : ResponseJson)

inductive Step : DeviceRepair → DeviceEvent → DeviceRepair → Prop
  | attempt {s : DeviceRepair} (environment : DeviceEnvironment) (isUDSend : Bool) :
      Step s (.attempt environment isUDSend (s.deviceMessagesForMessageSend environment isUDSend).1)
        (s.deviceMessagesForMessageSend environment isUDSend).2
  | mismatchedDevices {s s' : DeviceRepair} {responseJson : ResponseJson}
      (isRegistered : responseJson.code ≠ some 404)
      (handled : s.handleMismatchedDevicesWithResponseJson responseJson = some s') :
      Step s (.mismatchedDevices responseJson) s'
  | staleDevices {s s' : DeviceRepair} {responseJson : ResponseJson}
      (handled : s.handleStaleDevicesWithResponseJson responseJson = some s') :
      Step s (.staleDevices responseJson) s'

/-- What each of them is to do. -/
inductive Repaired (s s' : DeviceRepair) : DeviceEvent → Prop
  | attempt {environment : DeviceEnvironment} {isUDSend : Bool}
      {result : Except DeviceMessagesException (List DeviceMessage)}
      (builds : BuildsMessages s s' (s.deviceIds isUDSend).elements result
        (goneDevices environment (s.deviceIds isUDSend).elements s))
      (raised : ∀ exception, result = .error exception →
        ∃ visit ∈ reached environment (s.deviceIds isUDSend).elements s,
          (visit.2.deviceMessage environment visit.1).1 = .raises exception) :
      Repaired s s' (.attempt environment isUDSend result)
  /-- The attempt is given up before a device. -/
  | noPlainText {environment : DeviceEnvironment} {isUDSend : Bool}
      (hnone : environment.buildsPlainText = false) (unchanged : s' = s) :
      Repaired s s' (.attempt environment isUDSend (.error .other))
  | mismatchedDevices {responseJson : ResponseJson} {missingDevices extraDevices : List ℤ}
      (missing : DeviceListJson.ids responseJson.missingDevices = some missingDevices)
      (extra : DeviceListJson.ids responseJson.extraDevices = some extraDevices)
      (repairs : RepairsMismatch s s' missingDevices extraDevices) :
      Repaired s s' (.mismatchedDevices responseJson)
  | staleDevices {responseJson : ResponseJson} {staleDevices : List ℤ}
      (stale : DeviceListJson.ids responseJson.staleDevices = some staleDevices)
      (repairs : RepairsStale s s' staleDevices) : Repaired s s' (.staleDevices responseJson)

variable {event : DeviceEvent}

theorem Step.repaired (step : Step s event s') : Repaired s s' event := by
  cases step with
  | attempt environment isUDSend =>
      rw [deviceMessagesForMessageSend]
      split
      · exact .attempt (deviceMessages_builds environment (s.deviceIds isUDSend).nodup)
          fun _ herror => exists_raises herror
      · next hnone => exact .noPlainText (Bool.eq_false_of_not_eq_true hnone) rfl
  | @mismatchedDevices _ responseJson isRegistered handled =>
      rw [handleMismatchedDevicesWithResponseJson] at handled
      split at handled
      · rename_i missingDevices extraDevices missing extra
        rw [← Option.some.inj handled]
        exact .mismatchedDevices missing extra (s.repairsMismatch missingDevices extraDevices)
      · cases handled
  | @staleDevices _ responseJson handled =>
      rw [handleStaleDevicesWithResponseJson] at handled
      split at handled
      · cases handled
      · rename_i devices stale
        rw [← Option.some.inj handled]
        exact .staleDevices stale
          ⟨rfl, rfl, rfl, deletesSessions s.stores s.recipient.recipientId devices⟩

/-- The local number is not sent to at this device. -/
def NoPrimary (s : DeviceRepair) : Prop :=
  s.localNumber = some s.recipient.recipientId →
    OWSDevicePrimaryDeviceId ∉ s.recipient.devices ∧
      ∀ stored, s.recipients s.recipient.recipientId = some stored →
        OWSDevicePrimaryDeviceId ∉ stored

theorem NoPrimary.lastKnown (h : s.NoPrimary)
    (isLocalNumber : s.localNumber = some s.recipient.recipientId) :
    OWSDevicePrimaryDeviceId ∉ s.lastKnown := by
  rw [DeviceRepair.lastKnown]
  cases hstored : s.recipients s.recipient.recipientId with
  | none => exact (h isLocalNumber).1
  | some stored => exact (h isLocalNumber).2 stored hstored

/-- An object that is in step has no more devices than what is stored. -/
theorem InStep.noPrimary (h : s.InStep) (hdevices : s.localNumber = some s.recipient.recipientId →
    OWSDevicePrimaryDeviceId ∉ s.recipient.devices) : s.NoPrimary := by
  refine fun isLocalNumber => ⟨hdevices isLocalNumber, fun stored hstored => ?_⟩
  rw [h] at hstored
  rw [← Option.some.inj hstored]
  exact hdevices isLocalNumber

theorem NoPrimary.congr (h : s.NoPrimary) (hrecipient : s'.recipient = s.recipient)
    (hrecipients : s'.recipients = s.recipients) (hlocal : s'.localNumber = s.localNumber) :
    s'.NoPrimary := by
  rw [NoPrimary, hrecipient, hrecipients, hlocal]
  exact h

/-- **The local number's own devices** never come to contain this one. -/
theorem Step.noPrimary (step : Step s event s') (h : s.NoPrimary) : s'.NoPrimary := by
  cases step.repaired with
  | @attempt environment isUDSend _ builds _ =>
      by_cases hnone : goneDevices environment (s.deviceIds isUDSend).elements s = []
      · exact h.congr (builds.unchanged hnone).1 (builds.unchanged hnone).2 builds.localNumber
      · refine (builds.inStep hnone).noPrimary fun isLocalNumber => ?_
        rw [← (builds.inStep hnone).lastKnown, builds.mem_lastKnown]
        rw [builds.localNumber, builds.recipientId] at isLocalNumber
        exact fun hmem => h.lastKnown isLocalNumber hmem.1
  | noPlainText _ unchanged =>
      rw [unchanged]
      exact h
  | @mismatchedDevices _ missingDevices extraDevices missing extra repairs =>
      by_cases hnone : missingDevices = [] ∧ extraDevices = []
      · obtain ⟨hrecipient, hrecipients⟩ := repairs.unchanged hnone.1 hnone.2
        exact h.congr hrecipient hrecipients repairs.localNumber
      · have hsome : missingDevices ≠ [] ∨ extraDevices ≠ [] := by
          by_cases hmissing : missingDevices = []
          · exact .inr fun hextra => hnone ⟨hmissing, hextra⟩
          · exact .inl hmissing
        refine (repairs.inStep hsome).noPrimary fun isLocalNumber => ?_
        rw [repairs.localNumber, repairs.recipientId] at isLocalNumber
        rw [repairs.mem_devices hsome]
        rintro ⟨hknown | ⟨hmissing, hrefuses⟩, -⟩
        · exact h.lastKnown isLocalNumber hknown
        · exact hrefuses ⟨isLocalNumber, hmissing⟩
  | staleDevices stale repairs =>
      exact h.congr repairs.recipient repairs.recipients repairs.localNumber

/-- A device whose number is "+15550001" sends to a recipient that is stored. -/
def sampleRepair (recipientId : String) (devices : OrderedSet ℤ) : DeviceRepair where
  recipient := ⟨recipientId, devices⟩
  recipients := fun other => if other = recipientId then some devices else none
  stores :=
    { sessions := fun _ _ => none
      identities := fun _ => none
      trustedKeys := fun _ => none
      queuedVerificationStateSyncMessages := fun _ => none
      preKeys := fun _ => none
      signedPreKeys := fun _ => none
      identityKeyPair := none
      localNumber := some "+15550001"
      localRegistrationId := 1 }
  localNumber := some "+15550001"
  mayHaveLinkedDevices := false

/-- The body of a 409. -/
def sampleMismatch (missingDevices extraDevices : List ℤ) : ResponseJson where
  code := none
  extraDevices := some (.devices extraDevices)
  missingDevices := some (.devices missingDevices)
  staleDevices := none

end DeviceRepair

end ObjcSwiftLearning.SignalServiceKit
