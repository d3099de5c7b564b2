import ObjcSwiftLearning.SignalServiceKit.PreviewTexts

/-!
# Notifications and the preview setting

Seven methods present notifications; each switches over the setting of how much is shown.

* `NotificationsManager.present` — what is presented for an event, where the names and the content
  of the message are apart from the rest.
* `NotificationsManager.RespectsPreviewType` — what the setting keeps back is not to be told from
  the alert texts.
* `NotificationsManager.respectsPreviewType_iff` — **when the setting is respected**: the error
  message of a changed safety number embeds the name of the contact, and is shown as it is.
-/

namespace ObjcSwiftLearning.Signal

open SignalServiceKit

inductive NotificationType where
  | noNameNoPreview
  | nameNoPreview
  | namePreview
  deriving DecidableEq

/-- `UILocalNotification`, without its sound. -/
structure UILocalNotification where
  category : Option String
  userInfo : List (String × String)
  alertBody : String

/-- `SignalCall`. -/
structure NotifiedCall where
  localId : String
  remotePhoneNumber : String

/-- `TSThread`, without its name. -/
inductive NotifiedThread where
  | contact (contactIdentifier : String) (isMuted : Bool)
  | group (uniqueId : String) (recipientIdentifiers : List String) (isMuted : Bool)

namespace NotifiedThread

def uniqueId : NotifiedThread → String
  | contact contactIdentifier _ => "c" ++ contactIdentifier
  | group uniqueId _ _ => uniqueId

def isMuted : NotifiedThread → Bool
  | contact _ isMuted => isMuted
  | group _ _ isMuted => isMuted

def recipientIdentifiers : NotifiedThread → List String
  | contact contactIdentifier _ => [contactIdentifier]
  | group _ recipientIdentifiers _ => recipientIdentifiers

def isGroupThread : NotifiedThread → Bool
  | contact _ _ => false
  | group _ _ _ => true

end NotifiedThread

/-- `TSIncomingMessage`, without its content. -/
structure NotifiedMessage where
  uniqueId : String
  authorId : String

/-- What a setting may keep back. -/
structure NamesAndContent where
  nameFromSystemContacts : String → Option String
  callerName : String
  groupName : Option String
  content : MessageContent

inductive NotificationEvent where
  | incomingCall (call : NotifiedCall)
  | missedCall (call : NotifiedCall)
  | missedCallBecauseOfNewIdentity (call : NotifiedCall)
  | missedCallBecauseOfNoLongerVerifiedIdentity (call : NotifiedCall)
  | errorMessage (message : TSErrorMessage) (thread : Option NotifiedThread)
  | threadlessErrorMessage (message : TSErrorMessage)
  | incomingMessage (message : NotifiedMessage) (thread : NotifiedThread)

/-- `NotificationsManager`, with what it asks others for. -/
structure NotificationsManager where
  environment : PreviewEnvironment
  notificationPreviewType : NotificationType
  /-- `applicationState` is `UIApplicationStateActive`. -/
  isActive : Bool
  isNoLongerVerified : String → Bool

namespace NotificationsManager

variable (manager : NotificationsManager)

/-! ## Calls -/

/-- The text for a call, of its two localized forms. -/
def callAlertBody (names : NamesAndContent) (withoutCallerName withCallerName : String) : String :=
  stringWithFormat "☎️ %@"
    [match manager.notificationPreviewType with
    | .noNameNoPreview => manager.environment.localizedString withoutCallerName
    | .nameNoPreview | .namePreview =>
        stringWithFormat (manager.environment.localizedString withCallerName) [names.callerName]]

/-- `presentNotification:identifier:`. -/
def presentNotification (notification : UILocalNotification) : Option UILocalNotification :=
  if manager.isActive then none
  else
    some { notification with
      alertBody := manager.environment.filterStringForDisplay notification.alertBody }

def presentIncomingCall (call : NotifiedCall) (names : NamesAndContent) :
    Option UILocalNotification :=
  manager.presentNotification
    { category := some "PushManagerCategoriesIncomingCall"
      userInfo := [("PushManagerUserInfoKeysLocalCallId", call.localId)]
      alertBody := manager.callAlertBody names "INCOMING_CALL" "INCOMING_CALL_FROM" }

def presentMissed (category withoutCallerName withCallerName : String) (call : NotifiedCall)
    (names : NamesAndContent) : Option UILocalNotification :=
  manager.presentNotification
    { category := some category
      userInfo :=
        [("PushManagerUserInfoKeysLocalCallId", call.localId),
          ("PushManagerUserInfoKeysCallBackSignalRecipientId", call.remotePhoneNumber),
          ("Signal_Thread_Id", "c" ++ call.remotePhoneNumber)]
      alertBody := manager.callAlertBody names withoutCallerName withCallerName }

def presentMissedCall : NotifiedCall → NamesAndContent → Option UILocalNotification :=
  manager.presentMissed "PushManagerCategoriesMissedCall" "MISSED_CALL"
    "MSGVIEW_MISSED_CALL_WITH_NAME"

def presentMissedCallBecauseOfNewIdentity :
    NotifiedCall → NamesAndContent → Option UILocalNotification :=
  manager.presentMissed "PushManagerCategoriesMissedCall"
    "MISSED_CALL_WITH_CHANGED_IDENTITY_BODY_WITHOUT_CALLER_NAME"
    "MISSED_CALL_WITH_CHANGED_IDENTITY_BODY_WITH_CALLER_NAME"

def presentMissedCallBecauseOfNoLongerVerifiedIdentity :
    NotifiedCall → NamesAndContent → Option UILocalNotification :=
  manager.presentMissed "PushManagerCategoriesMissedCallFromNoLongerVerifiedIdentity"
    "MISSED_CALL_WITH_CHANGED_IDENTITY_BODY_WITHOUT_CALLER_NAME"
    "MISSED_CALL_WITH_CHANGED_IDENTITY_BODY_WITH_CALLER_NAME"

/-! ## Messages -/

/-- `presentNotification:checkForCancel:` of `PushManager`, where the app is not active. -/
def pushNotification (notification : UILocalNotification) : UILocalNotification :=
  { notification with
    alertBody := manager.environment.filterStringForDisplay notification.alertBody }

/-- `displayNameForPhoneIdentifier:`. -/
def displayName (names : NamesAndContent) (recipientId : String) : String :=
  PreviewEnvironment.displayName recipientId (names.nameFromSystemContacts recipientId)

def threadName (names : NamesAndContent) : NotifiedThread → String
  | .contact contactIdentifier _ => displayName names contactIdentifier
  | .group _ _ _ =>
      names.groupName.getD (manager.environment.localizedString "NEW_GROUP_DEFAULT_TITLE")

def notifyUserForThreadlessErrorMessage (message : TSErrorMessage) (names : NamesAndContent) :
    Option UILocalNotification :=
  if manager.isActive then none
  else
    some (manager.pushNotification
      { category := none
        userInfo := []
        alertBody := manager.environment.errorPreviewText names.nameFromSystemContacts message })

def notifyUserForErrorMessage (message : TSErrorMessage) (thread : Option NotifiedThread)
    (names : NamesAndContent) : Option UILocalNotification :=
  match thread with
  | none => manager.notifyUserForThreadlessErrorMessage message names
  | some thread =>
      if thread.isMuted then none
      else if manager.isActive then none
      else
        some (manager.pushNotification
          { category := none
            userInfo := [("Signal_Thread_Id", thread.uniqueId)]
            alertBody :=
              match manager.notificationPreviewType with
              | .namePreview | .nameNoPreview =>
                  stringWithFormat "%@: %@" [manager.threadName names thread,
                    manager.environment.errorPreviewText names.nameFromSystemContacts message]
              -- The text of the error message is the same at every setting.
              | .noNameNoPreview =>
                  manager.environment.errorPreviewText names.nameFromSystemContacts message })

def groupName (names : NamesAndContent) (thread : NotifiedThread) : String :=
  if (stripped (manager.threadName names thread)).length < 1 then
    manager.environment.localizedString "NEW_GROUP_DEFAULT_TITLE"
  else stripped (manager.threadName names thread)

def incomingMessageNotification (message : NotifiedMessage) (thread : NotifiedThread)
    (names : NamesAndContent) (messageText : String) : UILocalNotification :=
  match manager.notificationPreviewType with
  | .namePreview =>
      { category :=
          some (if thread.recipientIdentifiers.any manager.isNoLongerVerified then
            "Signal_Full_New_Message_Category_No_Longer_Verified"
          else "Signal_Full_New_Message")
        userInfo :=
          [("Signal_Thread_Id", thread.uniqueId), ("Signal_Message_Id", message.uniqueId)]
        alertBody :=
          if thread.isGroupThread then
            stringWithFormat (manager.environment.localizedString "APN_MESSAGE_IN_GROUP_DETAILED")
              [displayName names message.authorId,
                stringWithFormat "\"%@\"" [manager.groupName names thread], messageText]
          else stringWithFormat "%@: %@" [displayName names message.authorId, messageText] }
  | .nameNoPreview =>
      { category := none
        userInfo := [("Signal_Thread_Id", thread.uniqueId)]
        alertBody :=
          if thread.isGroupThread then
            stringWithFormat "%@ \"%@\""
              [manager.environment.localizedString "APN_MESSAGE_IN_GROUP",
                manager.groupName names thread]
          else
            stringWithFormat "%@ %@"
              [manager.environment.localizedString "APN_MESSAGE_FROM",
                displayName names message.authorId] }
  | .noNameNoPreview =>
      { category := none
        userInfo := []
        alertBody := manager.environment.localizedString "APN_Message" }

/-- `notifyUserForIncomingMessage:inThread:contactsManager:transaction:`. -/
def notifyUserForIncomingMessage (message : NotifiedMessage) (thread : NotifiedThread)
    (names : NamesAndContent) : Option UILocalNotification :=
  if thread.isMuted then none
  else if manager.isActive then none
  else
    match manager.environment.filterNotificationText
        (some (manager.environment.messagePreviewText names.content)) with
    | none => none
    | some messageText =>
        some (manager.pushNotification
          (manager.incomingMessageNotification message thread names messageText))

/-! ## What the setting keeps back -/

def present : NotificationEvent → NamesAndContent → Option UILocalNotification
  | .incomingCall call => manager.presentIncomingCall call
  | .missedCall call => manager.presentMissedCall call
  | .missedCallBecauseOfNewIdentity call => manager.presentMissedCallBecauseOfNewIdentity call
  | .missedCallBecauseOfNoLongerVerifiedIdentity call =>
      manager.presentMissedCallBecauseOfNoLongerVerifiedIdentity call
  | .errorMessage message thread => manager.notifyUserForErrorMessage message thread
  | .threadlessErrorMessage message => manager.notifyUserForThreadlessErrorMessage message
  | .incomingMessage message thread => manager.notifyUserForIncomingMessage message thread

/-- Without names and previews the alert texts are the same whatever the names and the content
are; without previews that for an incoming message is the same whatever the content is. -/
structure RespectsPreviewType (event : NotificationEvent) : Prop where
  noNameNoPreview : manager.notificationPreviewType = .noNameNoPreview →
    ∀ names names' notification notification', manager.present event names = some notification →
      manager.present event names' = some notification' →
      notification.alertBody = notification'.alertBody
  nameNoPreview : manager.notificationPreviewType = .nameNoPreview →
    ∀ message thread, event = .incomingMessage message thread →
      ∀ (names : NamesAndContent) content content' notification notification',
        manager.present event { names with content := content } = some notification →
        manager.present event { names with content := content' } = some notification' →
        notification.alertBody = notification'.alertBody

/-- The error message that is shown for an event, in a thread that is not muted. -/
def shownError : NotificationEvent → Option TSErrorMessage
  | .errorMessage message thread => if thread.any (·.isMuted) then none else some message
  | .threadlessErrorMessage message => some message
  | _ => none

/-- Without names and previews it is shown that the safety number of a contact has changed, by a
text that embeds the contact. -/
def ShowsChangedIdentity (event : NotificationEvent) : Prop :=
  manager.notificationPreviewType = .noNameNoPreview ∧ manager.isActive = false ∧
    (∃ message, shownError event = some message ∧
      message.errorType = .nonBlockingIdentityChange ∧ message.recipientId.isSome = true) ∧
    0 < formatPlaces
      (manager.environment.localizedString "ERROR_MESSAGE_NON_BLOCKING_IDENTITY_CHANGE_FORMAT")

/-! ## What is shown without names and previews -/

variable {manager} {event : NotificationEvent} {names names' : NamesAndContent}
  {notification notification' : UILocalNotification} {message : TSErrorMessage}

/-- The text without names and previews, before it is filtered. -/
def bareText (manager : NotificationsManager) : NotificationEvent → NamesAndContent → String
  | .incomingCall _, _ =>
      stringWithFormat "☎️ %@" [manager.environment.localizedString "INCOMING_CALL"]
  | .missedCall _, _ =>
      stringWithFormat "☎️ %@" [manager.environment.localizedString "MISSED_CALL"]
  | .missedCallBecauseOfNewIdentity _, _
  | .missedCallBecauseOfNoLongerVerifiedIdentity _, _ =>
      stringWithFormat "☎️ %@" [manager.environment.localizedString
        "MISSED_CALL_WITH_CHANGED_IDENTITY_BODY_WITHOUT_CALLER_NAME"]
  | .errorMessage message _, names | .threadlessErrorMessage message, names =>
      manager.environment.errorPreviewText names.nameFromSystemContacts message
  | .incomingMessage _ _, _ => manager.environment.localizedString "APN_Message"

theorem alertBody_presentNotification (h : manager.presentNotification notification =
    some notification') :
    notification'.alertBody =
      manager.environment.filterStringForDisplay notification.alertBody := by
  unfold presentNotification at h
  split at h
  · cases h
  · cases h
    rfl

theorem alertBody_notifyUserForThreadlessErrorMessage
    (h : manager.notifyUserForThreadlessErrorMessage message names = some notification) :
    notification.alertBody = manager.environment.filterStringForDisplay
      (manager.environment.errorPreviewText names.nameFromSystemContacts message) := by
  unfold notifyUserForThreadlessErrorMessage at h
  split at h
  · cases h
  · cases h
    rfl

/-- **What is presented without names and previews**: the bare text, filtered. -/
theorem alertBody_of_noName (hsetting : manager.notificationPreviewType = .noNameNoPreview)
    (h : manager.present event names = some notification) :
    notification.alertBody =
      manager.environment.filterStringForDisplay (bareText manager event names) := by
  cases event with
  | incomingCall call | missedCall call | missedCallBecauseOfNewIdentity call
  | missedCallBecauseOfNoLongerVerifiedIdentity call =>
      rw [alertBody_presentNotification h, callAlertBody, hsetting, bareText]
  | errorMessage message thread =>
      cases thread with
      | none => exact alertBody_notifyUserForThreadlessErrorMessage h
      | some thread =>
          rw [present, notifyUserForErrorMessage, hsetting] at h
          split at h
          · cases h
          · split at h
            · cases h
            · cases h
              rfl
  | threadlessErrorMessage message => exact alertBody_notifyUserForThreadlessErrorMessage h
  | incomingMessage message thread =>
      rw [present, notifyUserForIncomingMessage] at h
      split at h
      · cases h
      · split at h
        · cases h
        · cases h
          rw [pushNotification, incomingMessageNotification, hsetting]
          rfl

theorem errorPreviewText_eq {environment : PreviewEnvironment}
    (h : message.errorType = .nonBlockingIdentityChange → message.recipientId.isSome = true →
      formatPlaces
        (environment.localizedString "ERROR_MESSAGE_NON_BLOCKING_IDENTITY_CHANGE_FORMAT") = 0)
    (name name' : String → Option String) :
    environment.errorPreviewText name message = environment.errorPreviewText name' message := by
  obtain ⟨errorType, recipientId⟩ := message
  cases errorType with
  | nonBlockingIdentityChange =>
      cases recipientId with
      | none => rfl
      | some recipientId =>
          exact PreviewEnvironment.stringWithFormat_eq_of_places_eq_zero (h rfl rfl) _ _
  | _ => rfl

/-- The text for an incoming message without a preview has nothing of its content. -/
theorem alertBody_of_noPreview (hsetting : manager.notificationPreviewType = .nameNoPreview)
    {message : NotifiedMessage} {thread : NotifiedThread}
    (h : manager.present (.incomingMessage message thread) names = some notification) :
    notification.alertBody = manager.environment.filterStringForDisplay
      (manager.incomingMessageNotification message thread names "").alertBody := by
  rw [present, notifyUserForIncomingMessage] at h
  split at h
  · cases h
  · split at h
    · cases h
    · cases h
      rw [pushNotification, incomingMessageNotification, hsetting, incomingMessageNotification,
        hsetting]

theorem isSome_present_of_shownError (hshown : shownError event = some message)
    (hactive : manager.isActive = false) (names : NamesAndContent) :
    (manager.present event names).isSome = true ∧
      bareText manager event names =
        manager.environment.errorPreviewText names.nameFromSystemContacts message := by
  cases event with
  | errorMessage message thread =>
      cases thread with
      | none =>
          cases hshown
          refine ⟨?_, rfl⟩
          rw [present, notifyUserForErrorMessage, notifyUserForThreadlessErrorMessage, hactive]
          rfl
      | some thread =>
          rw [shownError, Option.any_some] at hshown
          split at hshown
          · cases hshown
          · rename_i hmuted
            cases hshown
            refine ⟨?_, rfl⟩
            rw [present, notifyUserForErrorMessage, if_neg hmuted, hactive]
            rfl
  | threadlessErrorMessage message =>
      cases hshown
      refine ⟨?_, rfl⟩
      rw [present, notifyUserForThreadlessErrorMessage, hactive]
      rfl
  | _ => cases hshown

theorem shownError_of_present (hevent : event = .threadlessErrorMessage message ∨
      ∃ thread, event = .errorMessage message thread)
    (hpresent : manager.present event names = some notification) :
    manager.isActive = false ∧ shownError event = some message := by
  have hthreadless : manager.notifyUserForThreadlessErrorMessage message names =
      some notification → manager.isActive = false := by
    intro h
    unfold notifyUserForThreadlessErrorMessage at h
    split at h
    · cases h
    · rename_i hactive
      exact Bool.eq_false_iff.mpr hactive
  obtain rfl | ⟨thread, rfl⟩ := hevent
  · exact ⟨hthreadless hpresent, rfl⟩
  · cases thread with
    | none => exact ⟨hthreadless hpresent, rfl⟩
    | some thread =>
        rw [present, notifyUserForErrorMessage] at hpresent
        split at hpresent
        · cases hpresent
        · rename_i hmuted
          split at hpresent
          · cases hpresent
          · rename_i hactive
            exact ⟨Bool.eq_false_iff.mpr hactive, if_neg hmuted⟩

theorem bareText_eq (hsetting : manager.notificationPreviewType = .noNameNoPreview)
    (hnot : ¬manager.ShowsChangedIdentity event)
    (hpresent : manager.present event names = some notification) (names' : NamesAndContent) :
    bareText manager event names = bareText manager event names' := by
  have herror : ∀ message, (event = .threadlessErrorMessage message ∨
      ∃ thread, event = .errorMessage message thread) →
      manager.environment.errorPreviewText names.nameFromSystemContacts message =
        manager.environment.errorPreviewText names'.nameFromSystemContacts message := by
    intro message hevent
    obtain ⟨hactive, hshown⟩ := shownError_of_present hevent hpresent
    -- A format with a place for the name would show that the identity has changed.
    refine errorPreviewText_eq (fun htype hrecipient => ?_) _ _
    by_contra hplaces
    exact hnot ⟨hsetting, hactive, ⟨message, hshown, htype, hrecipient⟩,
      Nat.pos_of_ne_zero hplaces⟩
  cases event with
  | errorMessage message thread => exact herror message (Or.inr ⟨thread, rfl⟩)
  | threadlessErrorMessage message => exact herror message (Or.inl rfl)
  | _ => rfl

/-- A contact with that name for every number, and nothing else. -/
def named (name : String) : NamesAndContent where
  nameFromSystemContacts := fun _ => some name
  callerName := name
  groupName := some name
  content := ⟨none, [], fun _ => none, none⟩

/-- Where the changed identity of a contact is shown, the text has as many digits more as the
format has places and the name has digits. -/
theorem digitCount_of_showsChangedIdentity
    (hfolding : ∀ text, PreviewEnvironment.digitCount (manager.environment.stringByFolding text) =
      PreviewEnvironment.digitCount text) (hshown : shownError event = some message)
    (hactive : manager.isActive = false)
    (hsetting : manager.notificationPreviewType = .noNameNoPreview)
    (htype : message.errorType = .nonBlockingIdentityChange)
    (hrecipient : message.recipientId.isSome = true) {name : String} (hname : ¬name.length < 1) :
    ∃ notification, manager.present event (named name) = some notification ∧
      PreviewEnvironment.digitCount notification.alertBody =
        PreviewEnvironment.digitCount (stringWithFormat (manager.environment.localizedString
          "ERROR_MESSAGE_NON_BLOCKING_IDENTITY_CHANGE_FORMAT") [""]) +
        formatPlaces (manager.environment.localizedString
          "ERROR_MESSAGE_NON_BLOCKING_IDENTITY_CHANGE_FORMAT") *
        PreviewEnvironment.digitCount name := by
  obtain ⟨hsome, hbare⟩ := isSome_present_of_shownError hshown hactive (named name)
  obtain ⟨notification, hpresent⟩ := Option.isSome_iff_exists.mp hsome
  obtain ⟨recipientId, hid⟩ := Option.isSome_iff_exists.mp hrecipient
  have hdisplayed : PreviewEnvironment.displayName recipientId
      ((named name).nameFromSystemContacts recipientId) = name := if_neg hname
  refine ⟨notification, hpresent, ?_⟩
  rw [alertBody_of_noName hsetting hpresent,
    PreviewEnvironment.digitCount_filterStringForDisplay hfolding, hbare,
    PreviewEnvironment.errorPreviewText, htype, hid]
  dsimp only
  rw [hdisplayed]
  exact PreviewEnvironment.digitCount_stringWithFormat _ _

/-- **The preview setting is respected exactly where it is not shown that the safety number of a
contact has changed.**  Folding is taken to keep the digits of a text. -/
theorem respectsPreviewType_iff (event : NotificationEvent)
    (hfolding : ∀ text, PreviewEnvironment.digitCount (manager.environment.stringByFolding text) =
      PreviewEnvironment.digitCount text) :
    manager.RespectsPreviewType event ↔ ¬manager.ShowsChangedIdentity event := by
  constructor
  · rintro hrespects ⟨hsetting, hactive, ⟨message, hshown, htype, hrecipient⟩, hplaces⟩
    -- The texts for a name of one digit and for a name of two differ in how many digits they have.
    obtain ⟨first, hfirst, hdigits⟩ := digitCount_of_showsChangedIdentity hfolding hshown hactive
      hsetting htype hrecipient (show ¬"1".length < 1 by decide)
    obtain ⟨second, hsecond, hdigits'⟩ := digitCount_of_showsChangedIdentity hfolding hshown
      hactive hsetting htype hrecipient (show ¬"11".length < 1 by decide)
    have hsame := congrArg PreviewEnvironment.digitCount
      (hrespects.noNameNoPreview hsetting _ _ _ _ hfirst hsecond)
    have hone : PreviewEnvironment.digitCount "1" = 1 := by decide
    have htwo : PreviewEnvironment.digitCount "11" = 2 := by decide
    rw [hdigits, hdigits', hone, htwo] at hsame
    omega
  · intro hnot
    refine ⟨?_, ?_⟩
    · intro hsetting names names' notification notification' hpresent hpresent'
      rw [alertBody_of_noName hsetting hpresent, alertBody_of_noName hsetting hpresent',
        bareText_eq hsetting hnot hpresent names']
    -- With names and without previews, the content is replaced by a fixed text.
    · rintro hsetting message thread rfl names content content' notification notification'
        hpresent hpresent'
      rw [alertBody_of_noPreview hsetting hpresent, alertBody_of_noPreview hsetting hpresent',
        incomingMessageNotification, hsetting, incomingMessageNotification, hsetting]
      rfl

/-- The setting without names and previews, in English and in the background. -/
def withoutNames : NotificationsManager where
  environment :=
    { localizedString := fun key =>
        if key = "ERROR_MESSAGE_NON_BLOCKING_IDENTITY_CHANGE_FORMAT" then
          "Your safety number with %@ has changed."
        else if key = "ERROR_MESSAGE_NO_SESSION" then
          "No available session for contact."
        else key
      isRTL := false
      shouldFilterIndic := false
      rangeOfComposedCharacterSequenceAtIndex := fun _ index => (index, 1)
      stringByFolding := id }
  notificationPreviewType := .noNameNoPreview
  isActive := false
  isNoLongerVerified := fun _ => false

/-- The setting is respected for a message that cannot be decrypted without a session. -/
theorem respectsPreviewType_noSession :
    withoutNames.RespectsPreviewType (.threadlessErrorMessage ⟨.noSession, none⟩) ↔
      ¬withoutNames.ShowsChangedIdentity (.threadlessErrorMessage ⟨.noSession, none⟩) :=
  respectsPreviewType_iff _ fun _ => rfl

theorem not_respectsPreviewType_changedIdentity :
    ¬∀ (manager : NotificationsManager) (event : NotificationEvent),
      manager.RespectsPreviewType event := by
  intro h
  have hsame := (h withoutNames (.errorMessage
    ⟨.nonBlockingIdentityChange, some "+14155550100"⟩ (some (.contact "+14155550100" false)))
    ).noNameNoPreview rfl (named "Alice") (named "Bob") _ _ rfl rfl
  revert hsame
  decide

end NotificationsManager

end ObjcSwiftLearning.Signal
