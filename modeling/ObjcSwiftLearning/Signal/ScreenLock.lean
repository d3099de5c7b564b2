import Mathlib.Data.Int.Order.Basic
import Mathlib.Tactic.Common

/-!
# The screen lock

`OWSScreenLockUI` decides whether a window covers the content, and asks for authentication when
the app is locked.  Its handlers are functions of its flags.

* `OWSScreenLockUI.ensureUI_eq`, `OWSScreenLockUI.tryToActivate_eq` — the two methods that most
  handlers end with, as one change of the flags.
* `OWSScreenLockUI.Consistent` — how the flags are tied to the authentication that is under way;
  every handler keeps it.
-/

namespace ObjcSwiftLearning.Signal

inductive ScreenLockUIState where
  | none
  | screenProtection
  | screenLock
  deriving DecidableEq

structure OWSScreenLockUI where
  appIsInactiveOrBackground : Bool
  appIsInBackground : Bool
  isShowingScreenLockUI : Bool
  didLastUnlockAttemptFail : Bool
  shouldClearAuthUIWhenActive : Bool
  isScreenLockLocked : Bool
  screenLockCountdownDate : Option ℤ
  /-- The state and logo last given to the blocking window. -/
  screenBlockingWindow : ScreenLockUIState
  isLogoAtTop : Bool
  isAppReady : Bool
  isScreenLockEnabled : Bool
  screenLockTimeout : ℤ
  screenSecurityIsEnabled : Bool
  /-- The attempts to authenticate that were presented and have not reported. -/
  authentications : ℕ
  /-- The blocks with `clearAuthUIWhenActive` on the main queue. -/
  deferredClears : ℕ

namespace OWSScreenLockUI

variable (ui : OWSScreenLockUI)

/-! ## What most handlers end with -/

def desiredUIState : ScreenLockUIState :=
  if ui.isScreenLockLocked then
    if ui.appIsInactiveOrBackground then .screenProtection else .screenLock
  else if !ui.appIsInactiveOrBackground then .none
  else if ui.screenSecurityIsEnabled then .screenProtection
  else .none

def updateScreenBlockingWindow (desiredUIState : ScreenLockUIState) : OWSScreenLockUI :=
  { ui with screenBlockingWindow := desiredUIState, isLogoAtTop := ui.isShowingScreenLockUI }

/-- `tryToPresentAuthUIToUnlockScreenLock`.  The `ensureUI` it ends with finds the auth UI
showing, and only updates the window. -/
def tryToPresentAuthUIToUnlockScreenLock : OWSScreenLockUI :=
  if ui.isShowingScreenLockUI then ui
  else if ui.appIsInactiveOrBackground then ui
  else
    { ui with
      isShowingScreenLockUI := true
      authentications := ui.authentications + 1 }.updateScreenBlockingWindow ui.desiredUIState

/-- `ensureUI`, which waits for the app to be ready. -/
def ensureUI : OWSScreenLockUI :=
  if !ui.isAppReady then ui
  else
    let updated := ui.updateScreenBlockingWindow ui.desiredUIState
    if ui.desiredUIState = .screenLock ∧ !ui.didLastUnlockAttemptFail then
      updated.tryToPresentAuthUIToUnlockScreenLock
    else updated

def tryToActivateScreenLockBasedOnCountdown (now : ℤ) : OWSScreenLockUI :=
  if !ui.isAppReady then ui
  else if !ui.isScreenLockEnabled then ui
  else if ui.isScreenLockLocked then ui
  else
    match ui.screenLockCountdownDate with
    | none => ui
    | some date =>
        if ui.screenLockTimeout ≤ (date - now).natAbs then { ui with isScreenLockLocked := true }
        else ui

def startScreenLockCountdownIfNecessary (now : ℤ) : OWSScreenLockUI :=
  { ui with
    screenLockCountdownDate := ui.screenLockCountdownDate.or (some now)
    didLastUnlockAttemptFail := false }

/-- The auth UI is due. -/
def presents : Bool :=
  ui.isScreenLockLocked && !ui.appIsInactiveOrBackground && !ui.didLastUnlockAttemptFail &&
    !ui.isShowingScreenLockUI

/-- **What `ensureUI` does**: the window follows the flags, and the auth UI is presented where it
is due. -/
theorem ensureUI_eq : ui.ensureUI =
    if ui.isAppReady then
      { ui with
        screenBlockingWindow := ui.desiredUIState
        isLogoAtTop := ui.isShowingScreenLockUI || ui.presents
        isShowingScreenLockUI := ui.isShowingScreenLockUI || ui.presents
        authentications := ui.authentications + ui.presents.toNat }
    else ui := by
  obtain ⟨inactive, background, showing, failed, clear, locked, date, window, logo, ready, enabled,
    timeout, security, authentications, clears⟩ := ui
  cases ready with
  | false => rfl
  | true =>
      cases locked with
      | false => cases inactive <;> cases security <;> simp [ensureUI, desiredUIState, presents,
          updateScreenBlockingWindow]
      | true => cases inactive <;> cases failed <;> cases showing <;> rfl

/-- **What the countdown does**: it locks the app if it is over. -/
theorem tryToActivate_eq (now : ℤ) : ui.tryToActivateScreenLockBasedOnCountdown now =
    { ui with
      isScreenLockLocked := ui.isScreenLockLocked || (ui.isAppReady && ui.isScreenLockEnabled &&
        ui.screenLockCountdownDate.any fun date =>
          ui.screenLockTimeout ≤ (date - now).natAbs) } := by
  obtain ⟨inactive, background, showing, failed, clear, locked, date, window, logo, ready, enabled,
    timeout, security, authentications, clears⟩ := ui
  cases ready with
  | false => cases locked <;> rfl
  | true =>
      cases enabled with
      | false => cases locked <;> rfl
      | true =>
          cases locked with
          | true => rfl
          | false =>
              cases date with
              | none => rfl
              | some date =>
                  by_cases h : timeout ≤ (date - now).natAbs
                  · simp only [tryToActivateScreenLockBasedOnCountdown, Bool.not_true,
                      Bool.false_eq_true, if_false, Option.any_some, if_pos h, decide_eq_true h]
                    rfl
                  · simp only [tryToActivateScreenLockBasedOnCountdown, Bool.not_true,
                      Bool.false_eq_true, if_false, Option.any_some, if_neg h, decide_eq_false h]
                    rfl

/-! ## Events -/

def setAppIsInactiveOrBackground (value : Bool) (now : ℤ) : OWSScreenLockUI :=
  let updated := { ui with appIsInactiveOrBackground := value }
  if value then
    if !updated.isShowingScreenLockUI then
      (updated.startScreenLockCountdownIfNecessary now).ensureUI
    else updated.ensureUI
  else
    { updated.tryToActivateScreenLockBasedOnCountdown now with
      screenLockCountdownDate := none }.ensureUI

def setAppIsInBackground (value : Bool) (now : ℤ) : OWSScreenLockUI :=
  let updated := { ui with appIsInBackground := value }
  if value then (updated.startScreenLockCountdownIfNecessary now).ensureUI
  else (updated.tryToActivateScreenLockBasedOnCountdown now).ensureUI

def applicationDidBecomeActive (now : ℤ) : OWSScreenLockUI :=
  if ui.shouldClearAuthUIWhenActive then
    { ui with
      shouldClearAuthUIWhenActive := false
      isShowingScreenLockUI := false }.setAppIsInactiveOrBackground false now
  else ui.setAppIsInactiveOrBackground false now

def applicationWillResignActive (now : ℤ) : OWSScreenLockUI :=
  ui.setAppIsInactiveOrBackground true now

def applicationWillEnterForeground (now : ℤ) : OWSScreenLockUI := ui.setAppIsInBackground false now

def applicationDidEnterBackground (now : ℤ) : OWSScreenLockUI := ui.setAppIsInBackground true now

def clearAuthUIWhenActive : OWSScreenLockUI :=
  if ui.appIsInactiveOrBackground then { ui with shouldClearAuthUIWhenActive := true }
  else { ui with isShowingScreenLockUI := false }.ensureUI

/-- An attempt to authenticate reports. -/
def reported : OWSScreenLockUI := { ui with authentications := ui.authentications - 1 }

/-- The `success` block. -/
def unlockSucceeded : OWSScreenLockUI :=
  { ui.reported with isShowingScreenLockUI := false, isScreenLockLocked := false }.ensureUI

/-- The `failure` block, up to the alert; after the alert there is an `ensureUI`. -/
def unlockFailed : OWSScreenLockUI :=
  { ui.reported.clearAuthUIWhenActive with didLastUnlockAttemptFail := true }

/-- The `unexpectedFailure` block. -/
def unlockUnexpectedlyFailed : OWSScreenLockUI :=
  { ui.reported with deferredClears := ui.deferredClears + 1 }

/-- The block that the `unexpectedFailure` block dispatches. -/
def deferredClear : OWSScreenLockUI :=
  { ui with deferredClears := ui.deferredClears - 1 }.clearAuthUIWhenActive

/-- The `cancel` block. -/
def unlockCancelled : OWSScreenLockUI :=
  { ui.reported.clearAuthUIWhenActive with didLastUnlockAttemptFail := true }.ensureUI

def unlockButtonWasTapped : OWSScreenLockUI :=
  if ui.appIsInactiveOrBackground then ui
  else { ui with didLastUnlockAttemptFail := false }.ensureUI

def clockDidChange : OWSScreenLockUI :=
  if !ui.isAppReady then ui
  else { ui with isScreenLockLocked := ui.isScreenLockEnabled }.ensureUI

/-- The block of `startObserving` that runs when the app becomes ready.  The `ensureUI` calls that
were waiting for it come later, and find nothing left to do. -/
def appBecameReady : OWSScreenLockUI :=
  { ui with isAppReady := true, isScreenLockLocked := ui.isScreenLockEnabled }.ensureUI

/-- The flags when the app starts to observe, active or not. -/
def startObserving (isActive isScreenLockEnabled screenSecurityIsEnabled : Bool)
    (screenLockTimeout : ℤ) : OWSScreenLockUI where
  appIsInactiveOrBackground := !isActive
  appIsInBackground := false
  isShowingScreenLockUI := false
  didLastUnlockAttemptFail := false
  shouldClearAuthUIWhenActive := false
  isScreenLockLocked := false
  screenLockCountdownDate := none
  screenBlockingWindow := .none
  isLogoAtTop := false
  isAppReady := false
  isScreenLockEnabled := isScreenLockEnabled
  screenLockTimeout := screenLockTimeout
  screenSecurityIsEnabled := screenSecurityIsEnabled
  authentications := 0
  deferredClears := 0

/-! ## What the flags mean -/

def BlocksContent : Prop := ui.screenBlockingWindow ≠ .none

/-- How the flags are tied to each other: `isShowingScreenLockUI` says that one attempt has not
reported, or has reported and is still to be cleared away; it is made only while the app is
locked, and the app is locked only where the lock is enabled. -/
structure Consistent : Prop where
  oneAttempt : ui.authentications + ui.deferredClears + ui.shouldClearAuthUIWhenActive.toNat =
    ui.isShowingScreenLockUI.toNat
  locked_of_showing : ui.isShowingScreenLockUI = true → ui.isScreenLockLocked = true
  enabled_of_locked : ui.isScreenLockLocked = true → ui.isScreenLockEnabled = true
  ready_of_locked : ui.isScreenLockLocked = true → ui.isAppReady = true

def CoversLocked : Prop := ui.isScreenLockLocked = true → ui.BlocksContent

variable {ui}

/-! ### `ensureUI` -/

@[simp] theorem ensureUI_locked : ui.ensureUI.isScreenLockLocked = ui.isScreenLockLocked := by
  rw [ensureUI_eq]
  split <;> rfl

@[simp] theorem ensureUI_enabled : ui.ensureUI.isScreenLockEnabled = ui.isScreenLockEnabled := by
  rw [ensureUI_eq]
  split <;> rfl

@[simp] theorem ensureUI_ready : ui.ensureUI.isAppReady = ui.isAppReady := by
  rw [ensureUI_eq]
  split <;> rfl

@[simp] theorem ensureUI_inactive :
    ui.ensureUI.appIsInactiveOrBackground = ui.appIsInactiveOrBackground := by
  rw [ensureUI_eq]
  split <;> rfl

@[simp] theorem ensureUI_countdown :
    ui.ensureUI.screenLockCountdownDate = ui.screenLockCountdownDate := by
  rw [ensureUI_eq]
  split <;> rfl

/-- The auth UI is presented only while the app is active. -/
theorem ensureUI_showing_of_inactive (h : ui.appIsInactiveOrBackground = true) :
    ui.ensureUI.isShowingScreenLockUI = ui.isShowingScreenLockUI := by
  rw [ensureUI_eq]
  split
  · simp [presents, h]
  · rfl

theorem desiredUIState_ne_none_of_locked (h : ui.isScreenLockLocked = true) :
    ui.desiredUIState ≠ .none := by
  rw [desiredUIState, if_pos h]
  split
  · exact ScreenLockUIState.noConfusion
  · exact ScreenLockUIState.noConfusion

/-- **After `ensureUI`** one attempt at most is under way, and a locked app is covered. -/
theorem Consistent.ensureUI (h : ui.Consistent) : ui.ensureUI.Consistent ∧
    ui.ensureUI.CoversLocked := by
  have hcovers : ui.ensureUI.CoversLocked := by
    intro hlocked
    rw [ensureUI_locked] at hlocked
    rw [BlocksContent, ensureUI_eq, if_pos (h.ready_of_locked hlocked)]
    exact desiredUIState_ne_none_of_locked hlocked
  refine ⟨⟨?_, ?_, ?_, ?_⟩, hcovers⟩
  · have hone := h.oneAttempt
    rw [ensureUI_eq]
    split
    · cases hpresents : ui.presents with
      | false => simpa using hone
      | true =>
          have hshowing : ui.isShowingScreenLockUI = false := by
            simp only [presents, Bool.and_eq_true, Bool.not_eq_true'] at hpresents
            exact hpresents.2
          simp only [hshowing, Bool.toNat_false, Bool.toNat_true, Bool.false_or] at hone ⊢
          omega
    · exact hone
  · intro hshowing
    rw [ensureUI_locked]
    rw [ensureUI_eq] at hshowing
    split at hshowing
    · rcases Bool.or_eq_true_iff.mp hshowing with hshowing | hpresents
      · exact h.locked_of_showing hshowing
      · simp only [presents, Bool.and_eq_true] at hpresents
        exact hpresents.1.1.1
    · exact h.locked_of_showing hshowing
  · rw [ensureUI_locked, ensureUI_enabled]
    exact h.enabled_of_locked
  · rw [ensureUI_locked, ensureUI_ready]
    exact h.ready_of_locked

/-! ### The events -/

theorem Consistent.tryToActivate (h : ui.Consistent) (now : ℤ) :
    (ui.tryToActivateScreenLockBasedOnCountdown now).Consistent := by
  rw [tryToActivate_eq]
  refine ⟨h.oneAttempt, fun hshowing => ?_, fun hlocked => ?_, fun hlocked => ?_⟩
  · exact Bool.or_eq_true_iff.mpr (.inl (h.locked_of_showing hshowing))
  · rcases Bool.or_eq_true_iff.mp hlocked with hlocked | hover
    · exact h.enabled_of_locked hlocked
    · simp only [Bool.and_eq_true] at hover
      exact hover.1.2
  · rcases Bool.or_eq_true_iff.mp hlocked with hlocked | hover
    · exact h.ready_of_locked hlocked
    · simp only [Bool.and_eq_true] at hover
      exact hover.1.1

/-- The attempt has reported, and no block is waiting for it. -/
def settled (ui : OWSScreenLockUI) : OWSScreenLockUI :=
  { ui with authentications := 0, deferredClears := 0 }

section

variable (h : ui.Consistent)
include h

/-- An attempt that can report is the one under way. -/
theorem Consistent.reported_eq (hpos : 0 < ui.authentications) :
    ui.reported = ui.settled ∧ ui.isShowingScreenLockUI = true ∧
      ui.shouldClearAuthUIWhenActive = false := by
  obtain ⟨hone, -, -, -⟩ := h
  have hle := Bool.toNat_le ui.isShowingScreenLockUI
  have hauthentications : ui.authentications - 1 = 0 := by omega
  have hclears : ui.deferredClears = 0 := by omega
  refine ⟨?_, Bool.toNat_eq_one.mp (by omega), Bool.toNat_eq_zero.mp (by omega)⟩
  rw [reported, settled, hauthentications, ← hclears]

/-- A block that can run belongs to the attempt that was under way. -/
theorem Consistent.cleared_eq (hpos : 0 < ui.deferredClears) :
    { ui with deferredClears := ui.deferredClears - 1 } = ui.settled ∧
      ui.isShowingScreenLockUI = true ∧ ui.shouldClearAuthUIWhenActive = false := by
  obtain ⟨hone, -, -, -⟩ := h
  have hle := Bool.toNat_le ui.isShowingScreenLockUI
  have hclears : ui.deferredClears - 1 = 0 := by omega
  have hauthentications : ui.authentications = 0 := by omega
  refine ⟨?_, Bool.toNat_eq_one.mp (by omega), Bool.toNat_eq_zero.mp (by omega)⟩
  rw [settled, hclears, ← hauthentications]

/-- **The auth UI is cleared away**, now or when the app is active. -/
theorem Consistent.clearAuthUI (hcovers : ui.CoversLocked)
    (hshowing : ui.isShowingScreenLockUI = true) (hclear : ui.shouldClearAuthUIWhenActive = false) :
    ui.settled.clearAuthUIWhenActive.Consistent ∧
      ui.settled.clearAuthUIWhenActive.CoversLocked := by
  rw [clearAuthUIWhenActive]
  split
  · refine ⟨⟨?_, h.locked_of_showing, h.enabled_of_locked, h.ready_of_locked⟩, hcovers⟩
    simp [settled, hshowing]
  · refine Consistent.ensureUI ⟨?_, fun hshowing => ?_, h.enabled_of_locked, h.ready_of_locked⟩
    · simp [settled, hclear]
    · cases hshowing

theorem Consistent.setFailed (failed : Bool) :
    { ui with didLastUnlockAttemptFail := failed }.Consistent :=
  { h with }

theorem Consistent.setAppIsInactiveOrBackground (value : Bool) (now : ℤ) :
    (ui.setAppIsInactiveOrBackground value now).Consistent ∧
      (ui.setAppIsInactiveOrBackground value now).CoversLocked := by
  have hupdated : { ui with appIsInactiveOrBackground := value }.Consistent :=
    { h with }
  rw [OWSScreenLockUI.setAppIsInactiveOrBackground]
  split
  · split
    · exact Consistent.ensureUI { hupdated with }
    · exact hupdated.ensureUI
  · have hactivated := hupdated.tryToActivate now
    exact Consistent.ensureUI { hactivated with }

theorem Consistent.setAppIsInBackground (value : Bool) (now : ℤ) :
    (ui.setAppIsInBackground value now).Consistent ∧
      (ui.setAppIsInBackground value now).CoversLocked := by
  have hupdated : { ui with appIsInBackground := value }.Consistent :=
    { h with }
  rw [OWSScreenLockUI.setAppIsInBackground]
  split
  · exact Consistent.ensureUI { hupdated with }
  · exact (hupdated.tryToActivate now).ensureUI

theorem Consistent.applicationDidBecomeActive (now : ℤ) :
    (ui.applicationDidBecomeActive now).Consistent ∧
      (ui.applicationDidBecomeActive now).CoversLocked := by
  rw [OWSScreenLockUI.applicationDidBecomeActive]
  split
  · rename_i hclear
    have hcleared : { ui with
        shouldClearAuthUIWhenActive := false
        isShowingScreenLockUI := false }.Consistent := by
      refine ⟨?_, fun hshowing => ?_, h.enabled_of_locked, h.ready_of_locked⟩
      · have hone := h.oneAttempt
        have hle := Bool.toNat_le ui.isShowingScreenLockUI
        simp only [hclear, Bool.toNat_true, Bool.toNat_false] at hone ⊢
        omega
      · cases hshowing
    exact hcleared.setAppIsInactiveOrBackground false now
  · exact h.setAppIsInactiveOrBackground false now

theorem Consistent.unlockSucceeded (hpos : 0 < ui.authentications) :
    ui.unlockSucceeded.Consistent ∧ ui.unlockSucceeded.CoversLocked := by
  obtain ⟨hreported, -, hclear⟩ := h.reported_eq hpos
  rw [OWSScreenLockUI.unlockSucceeded, hreported]
  refine Consistent.ensureUI ⟨?_, fun hshowing => ?_, fun hlocked => ?_, fun hlocked => ?_⟩
  · simp [settled, hclear]
  · cases hshowing
  · cases hlocked
  · cases hlocked

theorem Consistent.appBecameReady :
    ui.appBecameReady.Consistent ∧ ui.appBecameReady.CoversLocked :=
  Consistent.ensureUI ⟨h.oneAttempt,
    fun hshowing => h.enabled_of_locked (h.locked_of_showing hshowing), id, fun _ => rfl⟩

variable (hcovers : ui.CoversLocked)
include hcovers

theorem Consistent.unlockFailed (hpos : 0 < ui.authentications) :
    ui.unlockFailed.Consistent ∧ ui.unlockFailed.CoversLocked := by
  obtain ⟨hreported, hshowing, hclear⟩ := h.reported_eq hpos
  rw [OWSScreenLockUI.unlockFailed, hreported]
  obtain ⟨hcleared, hcovers⟩ := h.clearAuthUI hcovers hshowing hclear
  exact ⟨hcleared.setFailed true, hcovers⟩

theorem Consistent.unlockUnexpectedlyFailed (hpos : 0 < ui.authentications) :
    ui.unlockUnexpectedlyFailed.Consistent ∧ ui.unlockUnexpectedlyFailed.CoversLocked := by
  refine ⟨⟨?_, h.locked_of_showing, h.enabled_of_locked, h.ready_of_locked⟩, hcovers⟩
  have hone := h.oneAttempt
  simp only [OWSScreenLockUI.unlockUnexpectedlyFailed, reported]
  omega

theorem Consistent.deferredClear (hpos : 0 < ui.deferredClears) :
    ui.deferredClear.Consistent ∧ ui.deferredClear.CoversLocked := by
  obtain ⟨hcleared, hshowing, hclear⟩ := h.cleared_eq hpos
  rw [OWSScreenLockUI.deferredClear, hcleared]
  exact h.clearAuthUI hcovers hshowing hclear

theorem Consistent.unlockCancelled (hpos : 0 < ui.authentications) :
    ui.unlockCancelled.Consistent ∧ ui.unlockCancelled.CoversLocked := by
  obtain ⟨hreported, hshowing, hclear⟩ := h.reported_eq hpos
  rw [OWSScreenLockUI.unlockCancelled, hreported]
  exact ((h.clearAuthUI hcovers hshowing hclear).1.setFailed true).ensureUI

theorem Consistent.unlockButtonWasTapped :
    ui.unlockButtonWasTapped.Consistent ∧ ui.unlockButtonWasTapped.CoversLocked := by
  rw [OWSScreenLockUI.unlockButtonWasTapped]
  split
  · exact ⟨h, hcovers⟩
  · exact (h.setFailed false).ensureUI

theorem Consistent.clockDidChange :
    ui.clockDidChange.Consistent ∧ ui.clockDidChange.CoversLocked := by
  rw [OWSScreenLockUI.clockDidChange]
  split
  · exact ⟨h, hcovers⟩
  · rename_i hready
    exact Consistent.ensureUI ⟨h.oneAttempt,
      fun hshowing => h.enabled_of_locked (h.locked_of_showing hshowing), id,
      fun _ => by simpa using hready⟩

end

theorem consistent_startObserving (isActive isScreenLockEnabled screenSecurityIsEnabled : Bool)
    (screenLockTimeout : ℤ) :
    (startObserving isActive isScreenLockEnabled screenSecurityIsEnabled
      screenLockTimeout).Consistent := by
  refine ⟨rfl, fun hshowing => ?_, fun hlocked => ?_, fun hlocked => ?_⟩
  · cases hshowing
  · cases hlocked
  · cases hlocked

end OWSScreenLockUI

end ObjcSwiftLearning.Signal
