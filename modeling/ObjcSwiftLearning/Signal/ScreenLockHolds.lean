import ObjcSwiftLearning.Library.LabelledRun
import ObjcSwiftLearning.Signal.ScreenLock

/-!
# The screen lock holds

The events of the app in the order the system allows, from its launch on, with results of
authentication arriving at any time after it was presented.

* `ScreenLockWorld.Step` — an event; beside the flags it changes what the user could have written
  down: when the app left the active state, entered the background and was unlocked.
* `ScreenLockWorld.Sound` — **the countdown runs from the time the app left the active state**, or,
  where it left for the auth UI, from the time it entered the background.
* `ScreenLockWorld.screen_lock_holds` — what follows for a run.
-/

namespace ObjcSwiftLearning.Signal

/-- What the system has told about the app. -/
inductive AppPhase where
  | active
  | inactive
  | background
  deriving DecidableEq

def AppPhase.isActive : AppPhase → Bool
  | active => true
  | inactive | background => false

/-- An event, with the time of the clock where it is read. -/
inductive ScreenLockEvent where
  | appBecameReady
  | applicationDidBecomeActive (now : ℤ)
  | applicationWillResignActive (now : ℤ)
  | applicationWillEnterForeground (now : ℤ)
  | applicationDidEnterBackground (now : ℤ)
  | unlockSucceeded (now : ℤ)
  | unlockFailed
  | unlockUnexpectedlyFailed
  | unlockCancelled
  | deferredClear
  | unlockButtonWasTapped
  | clockDidChange
  /-- `screenLockDidChange:`, or the button of the alert after a failure. -/
  | ensureUI
  | settingsChanged (isScreenLockEnabled : Bool) (screenLockTimeout : ℤ)
      (screenSecurityIsEnabled : Bool)

/-- A successful authentication. -/
def ScreenLockEvent.isSuccess : ScreenLockEvent → Bool
  | unlockSucceeded _ => true
  | _ => false

/-- What happened since the app was launched. -/
structure ScreenLockHistory where
  leftActive : Option ℤ
  enteredBackground : Option ℤ
  /-- When it was last unlocked after that. -/
  unlocked : Option ℤ

/-- Nothing has happened. -/
def ScreenLockHistory.empty : ScreenLockHistory := ⟨none, none, none⟩

/-- The app, and what happened. -/
structure ScreenLockWorld where
  phase : AppPhase
  ui : OWSScreenLockUI
  history : ScreenLockHistory

namespace ScreenLockWorld

def launched (phase : AppPhase) (isScreenLockEnabled screenSecurityIsEnabled : Bool)
    (screenLockTimeout : ℤ) : ScreenLockWorld where
  phase := phase
  ui := .startObserving phase.isActive isScreenLockEnabled screenSecurityIsEnabled screenLockTimeout
  history := .empty

/-- An event.  The settings can be reached only while the app is not locked. -/
inductive Step : ScreenLockWorld → ScreenLockEvent → ScreenLockWorld → Prop
  | appBecameReady {phase : AppPhase} {ui : OWSScreenLockUI} {history : ScreenLockHistory}
      (hready : ui.isAppReady = false) :
      Step ⟨phase, ui, history⟩ .appBecameReady ⟨phase, ui.appBecameReady, history⟩
  | applicationDidBecomeActive {ui : OWSScreenLockUI} {history : ScreenLockHistory} (now : ℤ) :
      Step ⟨.inactive, ui, history⟩ (.applicationDidBecomeActive now)
        ⟨.active, ui.applicationDidBecomeActive now, history⟩
  | applicationWillResignActive {ui : OWSScreenLockUI} {history : ScreenLockHistory} (now : ℤ) :
      Step ⟨.active, ui, history⟩ (.applicationWillResignActive now)
        ⟨.inactive, ui.applicationWillResignActive now, ⟨some now, none, none⟩⟩
  | applicationWillEnterForeground {ui : OWSScreenLockUI} {history : ScreenLockHistory} (now : ℤ) :
      Step ⟨.background, ui, history⟩ (.applicationWillEnterForeground now)
        ⟨.inactive, ui.applicationWillEnterForeground now, history⟩
  | applicationDidEnterBackground {ui : OWSScreenLockUI} {history : ScreenLockHistory} (now : ℤ) :
      Step ⟨.inactive, ui, history⟩ (.applicationDidEnterBackground now)
        ⟨.background, ui.applicationDidEnterBackground now,
          { history with enteredBackground := history.enteredBackground.or (some now) }⟩
  | unlockSucceeded {phase : AppPhase} {ui : OWSScreenLockUI} {history : ScreenLockHistory}
      (now : ℤ) (hpresented : 0 < ui.authentications) :
      Step ⟨phase, ui, history⟩ (.unlockSucceeded now)
        ⟨phase, ui.unlockSucceeded, { history with unlocked := some now }⟩
  | unlockFailed {phase : AppPhase} {ui : OWSScreenLockUI} {history : ScreenLockHistory}
      (hpresented : 0 < ui.authentications) :
      Step ⟨phase, ui, history⟩ .unlockFailed ⟨phase, ui.unlockFailed, history⟩
  | unlockUnexpectedlyFailed {phase : AppPhase} {ui : OWSScreenLockUI} {history : ScreenLockHistory}
      (hpresented : 0 < ui.authentications) :
      Step ⟨phase, ui, history⟩ .unlockUnexpectedlyFailed
        ⟨phase, ui.unlockUnexpectedlyFailed, history⟩
  | unlockCancelled {phase : AppPhase} {ui : OWSScreenLockUI} {history : ScreenLockHistory}
      (hpresented : 0 < ui.authentications) :
      Step ⟨phase, ui, history⟩ .unlockCancelled ⟨phase, ui.unlockCancelled, history⟩
  | deferredClear {phase : AppPhase} {ui : OWSScreenLockUI} {history : ScreenLockHistory}
      (hdispatched : 0 < ui.deferredClears) :
      Step ⟨phase, ui, history⟩ .deferredClear ⟨phase, ui.deferredClear, history⟩
  | unlockButtonWasTapped {phase : AppPhase} {ui : OWSScreenLockUI} {history : ScreenLockHistory} :
      Step ⟨phase, ui, history⟩ .unlockButtonWasTapped ⟨phase, ui.unlockButtonWasTapped, history⟩
  | clockDidChange {phase : AppPhase} {ui : OWSScreenLockUI} {history : ScreenLockHistory} :
      Step ⟨phase, ui, history⟩ .clockDidChange ⟨phase, ui.clockDidChange, history⟩
  | ensureUI {phase : AppPhase} {ui : OWSScreenLockUI} {history : ScreenLockHistory} :
      Step ⟨phase, ui, history⟩ .ensureUI ⟨phase, ui.ensureUI, history⟩
  | settingsChanged {phase : AppPhase} {ui : OWSScreenLockUI} {history : ScreenLockHistory}
      (isScreenLockEnabled : Bool) (screenLockTimeout : ℤ) (screenSecurityIsEnabled : Bool)
      (hready : ui.isAppReady = true) (hunlocked : ui.isScreenLockLocked = false) :
      Step ⟨phase, ui, history⟩
        (.settingsChanged isScreenLockEnabled screenLockTimeout screenSecurityIsEnabled)
        ⟨phase, { ui with isScreenLockEnabled, screenLockTimeout, screenSecurityIsEnabled },
          history⟩

end ScreenLockWorld

/-! ## What an event leaves alone -/

namespace OWSScreenLockUI

variable {ui ui' : OWSScreenLockUI}

/-- The app stays in its phase, keeps its countdown, and is not unlocked; away from the active
state the auth UI neither comes nor goes. -/
structure Keeps (ui ui' : OWSScreenLockUI) : Prop where
  inactive : ui'.appIsInactiveOrBackground = ui.appIsInactiveOrBackground
  countdown : ui'.screenLockCountdownDate = ui.screenLockCountdownDate
  showing : ui.appIsInactiveOrBackground = true →
    ui'.isShowingScreenLockUI = ui.isShowingScreenLockUI
  locked : ui.isScreenLockLocked = true → ui'.isScreenLockLocked = true

theorem Keeps.ensureUI (h : Keeps ui ui') : Keeps ui ui'.ensureUI where
  inactive := ensureUI_inactive.trans h.inactive
  countdown := ensureUI_countdown.trans h.countdown
  showing hinactive :=
    (ensureUI_showing_of_inactive (h.inactive.trans hinactive)).trans (h.showing hinactive)
  locked hlocked := ensureUI_locked.trans (h.locked hlocked)

theorem keeps_clearAuthUIWhenActive : Keeps ui ui.settled.clearAuthUIWhenActive := by
  rw [clearAuthUIWhenActive]
  split
  · exact ⟨rfl, rfl, fun _ => rfl, id⟩
  · rename_i hactive
    exact Keeps.ensureUI ⟨rfl, rfl, fun hinactive => absurd hinactive hactive, id⟩

theorem Keeps.setFailed (h : Keeps ui ui') (failed : Bool) :
    Keeps ui { ui' with didLastUnlockAttemptFail := failed } :=
  { h with }

theorem Consistent.keeps_unlockFailed (h : ui.Consistent) (hpos : 0 < ui.authentications) :
    Keeps ui ui.unlockFailed := by
  rw [OWSScreenLockUI.unlockFailed, (h.reported_eq hpos).1]
  exact keeps_clearAuthUIWhenActive.setFailed true

theorem Consistent.keeps_unlockCancelled (h : ui.Consistent) (hpos : 0 < ui.authentications) :
    Keeps ui ui.unlockCancelled := by
  rw [OWSScreenLockUI.unlockCancelled, (h.reported_eq hpos).1]
  exact (keeps_clearAuthUIWhenActive.setFailed true).ensureUI

theorem Consistent.keeps_deferredClear (h : ui.Consistent) (hpos : 0 < ui.deferredClears) :
    Keeps ui ui.deferredClear := by
  rw [OWSScreenLockUI.deferredClear, (h.cleared_eq hpos).1]
  exact keeps_clearAuthUIWhenActive

theorem keeps_unlockButtonWasTapped : Keeps ui ui.unlockButtonWasTapped := by
  rw [unlockButtonWasTapped]
  split
  · exact ⟨rfl, rfl, fun _ => rfl, id⟩
  · exact Keeps.ensureUI ⟨rfl, rfl, fun _ => rfl, id⟩

theorem Consistent.keeps_clockDidChange (h : ui.Consistent) : Keeps ui ui.clockDidChange := by
  rw [OWSScreenLockUI.clockDidChange]
  split
  · exact ⟨rfl, rfl, fun _ => rfl, id⟩
  · exact Keeps.ensureUI ⟨rfl, rfl, fun _ => rfl, h.enabled_of_locked⟩

theorem Consistent.keeps_appBecameReady (h : ui.Consistent) : Keeps ui ui.appBecameReady :=
  Keeps.ensureUI ⟨rfl, rfl, fun _ => rfl, h.enabled_of_locked⟩

/-! ### Leaving and entering -/

/-- Leaving the active state starts the countdown, unless the auth UI is showing. -/
theorem countdown_willResignActive (now : ℤ) :
    (ui.applicationWillResignActive now).screenLockCountdownDate =
      if ui.isShowingScreenLockUI then ui.screenLockCountdownDate
      else ui.screenLockCountdownDate.or (some now) := by
  cases hshowing : ui.isShowingScreenLockUI <;>
    simp [applicationWillResignActive, setAppIsInactiveOrBackground,
      startScreenLockCountdownIfNecessary, hshowing]

theorem showing_willResignActive (now : ℤ) :
    (ui.applicationWillResignActive now).isShowingScreenLockUI = ui.isShowingScreenLockUI := by
  cases hshowing : ui.isShowingScreenLockUI <;>
    simp [applicationWillResignActive, setAppIsInactiveOrBackground,
      startScreenLockCountdownIfNecessary, hshowing, ensureUI_showing_of_inactive]

theorem inactive_willResignActive (now : ℤ) :
    (ui.applicationWillResignActive now).appIsInactiveOrBackground = true := by
  cases hshowing : ui.isShowingScreenLockUI <;>
    simp [applicationWillResignActive, setAppIsInactiveOrBackground,
      startScreenLockCountdownIfNecessary, hshowing]

theorem locked_willResignActive (now : ℤ) :
    (ui.applicationWillResignActive now).isScreenLockLocked = ui.isScreenLockLocked := by
  cases hshowing : ui.isShowingScreenLockUI <;>
    simp [applicationWillResignActive, setAppIsInactiveOrBackground,
      startScreenLockCountdownIfNecessary, hshowing]

theorem countdown_didEnterBackground (now : ℤ) :
    (ui.applicationDidEnterBackground now).screenLockCountdownDate =
      ui.screenLockCountdownDate.or (some now) := by
  simp [applicationDidEnterBackground, setAppIsInBackground, startScreenLockCountdownIfNecessary]

theorem locked_didBecomeActive (now : ℤ) :
    (ui.applicationDidBecomeActive now).isScreenLockLocked =
      (ui.isScreenLockLocked || (ui.isAppReady && ui.isScreenLockEnabled &&
        ui.screenLockCountdownDate.any fun date =>
          ui.screenLockTimeout ≤ (date - now).natAbs)) := by
  cases hclear : ui.shouldClearAuthUIWhenActive <;>
    simp [applicationDidBecomeActive, setAppIsInactiveOrBackground, tryToActivate_eq, hclear]

theorem countdown_didBecomeActive (now : ℤ) :
    (ui.applicationDidBecomeActive now).screenLockCountdownDate = none := by
  cases hclear : ui.shouldClearAuthUIWhenActive <;>
    simp [applicationDidBecomeActive, setAppIsInactiveOrBackground, hclear]

theorem inactive_didBecomeActive (now : ℤ) :
    (ui.applicationDidBecomeActive now).appIsInactiveOrBackground = false := by
  cases hclear : ui.shouldClearAuthUIWhenActive <;>
    simp [applicationDidBecomeActive, setAppIsInactiveOrBackground, tryToActivate_eq, hclear]

theorem keeps_willEnterForeground (now : ℤ) :
    Keeps ui (ui.applicationWillEnterForeground now) := by
  rw [applicationWillEnterForeground, setAppIsInBackground, tryToActivate_eq]
  exact Keeps.ensureUI ⟨rfl, rfl, fun _ => rfl, fun hlocked => by simp [hlocked]⟩

end OWSScreenLockUI

/-! ## The countdown -/

namespace ScreenLockWorld

open OWSScreenLockUI

/-- What holds of the app at any time. -/
structure Sound (world : ScreenLockWorld) : Prop where
  consistent : world.ui.Consistent
  covers : world.ui.CoversLocked
  inactive : world.ui.appIsInactiveOrBackground = !world.phase.isActive
  countdown_active : world.phase.isActive = true → world.ui.screenLockCountdownDate = none
  /-- Away from the active state, the countdown began on leaving it; or, if the auth UI was
  showing then, on entering the background. -/
  countdown : world.phase.isActive = false → ∀ left, world.history.leftActive = some left →
    world.ui.screenLockCountdownDate =
      if world.ui.isShowingScreenLockUI || world.history.unlocked.isSome then
        world.history.enteredBackground
      else some left

theorem sound_launched (phase : AppPhase) (isScreenLockEnabled screenSecurityIsEnabled : Bool)
    (screenLockTimeout : ℤ) :
    (launched phase isScreenLockEnabled screenSecurityIsEnabled screenLockTimeout).Sound where
  consistent := consistent_startObserving _ _ _ _
  covers hlocked := by cases hlocked
  inactive := rfl
  countdown_active _ := rfl
  countdown _ left hleft := by cases hleft

/-- A handler that keeps the flags of the countdown keeps what is known of it. -/
theorem Sound.of_keeps {phase : AppPhase} {ui ui' : OWSScreenLockUI} {history : ScreenLockHistory}
    (h : Sound ⟨phase, ui, history⟩) (hkeeps : Keeps ui ui')
    (hsound : ui'.Consistent ∧ ui'.CoversLocked) : Sound ⟨phase, ui', history⟩ where
  consistent := hsound.1
  covers := hsound.2
  inactive := hkeeps.inactive.trans h.inactive
  countdown_active hactive := hkeeps.countdown.trans (h.countdown_active hactive)
  countdown hphase left hleft := by
    have hinactive : ui.appIsInactiveOrBackground = true := by
      rw [h.inactive, hphase]
      rfl
    rw [hkeeps.countdown, hkeeps.showing hinactive]
    exact h.countdown hphase left hleft

variable {world world' : ScreenLockWorld} {event : ScreenLockEvent}

/-- **An event keeps it.** -/
theorem Sound.step (h : world.Sound) (hstep : Step world event world') : world'.Sound := by
  cases hstep with
  | appBecameReady hready =>
      exact h.of_keeps h.consistent.keeps_appBecameReady h.consistent.appBecameReady
  | applicationDidBecomeActive now =>
      have hsound := h.consistent.applicationDidBecomeActive now
      exact ⟨hsound.1, hsound.2, inactive_didBecomeActive now,
        fun _ => countdown_didBecomeActive now, fun hphase => by cases hphase⟩
  | @applicationWillResignActive ui history now =>
      have hsound := h.consistent.setAppIsInactiveOrBackground true now
      refine ⟨hsound.1, hsound.2, inactive_willResignActive now, fun hphase => (by cases hphase), ?_⟩
      -- No countdown runs while the app is active, so one that is started now runs from now.
      rintro - left hleft
      obtain rfl := Option.some.inj hleft
      have hcountdown : ui.screenLockCountdownDate = none := h.countdown_active rfl
      simp only [countdown_willResignActive, showing_willResignActive, hcountdown, Option.none_or,
        Option.isSome_none, Bool.or_false]
  | applicationWillEnterForeground now =>
      have hkept := h.of_keeps (keeps_willEnterForeground now)
        (h.consistent.setAppIsInBackground false now)
      exact ⟨hkept.consistent, hkept.covers, hkept.inactive, fun hphase => (by cases hphase),
        fun _ => hkept.countdown rfl⟩
  | @applicationDidEnterBackground ui history now =>
      have hsound := h.consistent.setAppIsInBackground true now
      have hshowing : (ui.applicationDidEnterBackground now).isShowingScreenLockUI =
          ui.isShowingScreenLockUI := ensureUI_showing_of_inactive h.inactive
      refine ⟨hsound.1, hsound.2, ensureUI_inactive.trans h.inactive,
        fun hphase => (by cases hphase), fun _ left hleft => ?_⟩
      have hcountdown := h.countdown rfl left hleft
      simp only [countdown_didEnterBackground, hshowing] at hcountdown ⊢
      rw [hcountdown]
      split
      · rfl
      · rfl
  | @unlockSucceeded phase ui history now hpresented =>
      have hsound := h.consistent.unlockSucceeded hpresented
      have hshowing : ui.isShowingScreenLockUI = true :=
        (h.consistent.reported_eq hpresented).2.1
      refine ⟨hsound.1, hsound.2, ensureUI_inactive.trans h.inactive,
        fun hphase => ensureUI_countdown.trans (h.countdown_active hphase),
        fun hphase left hleft => ?_⟩
      have hcountdown := h.countdown hphase left hleft
      simp only [hshowing, Bool.true_or, if_true] at hcountdown
      simp only [Option.isSome_some, Bool.or_true, if_true]
      exact ensureUI_countdown.trans hcountdown
  | unlockFailed hpresented =>
      exact h.of_keeps (h.consistent.keeps_unlockFailed hpresented)
        (h.consistent.unlockFailed h.covers hpresented)
  | unlockUnexpectedlyFailed hpresented =>
      exact h.of_keeps ⟨rfl, rfl, fun _ => rfl, id⟩
        (h.consistent.unlockUnexpectedlyFailed h.covers hpresented)
  | unlockCancelled hpresented =>
      exact h.of_keeps (h.consistent.keeps_unlockCancelled hpresented)
        (h.consistent.unlockCancelled h.covers hpresented)
  | deferredClear hdispatched =>
      exact h.of_keeps (h.consistent.keeps_deferredClear hdispatched)
        (h.consistent.deferredClear h.covers hdispatched)
  | unlockButtonWasTapped =>
      exact h.of_keeps keeps_unlockButtonWasTapped (h.consistent.unlockButtonWasTapped h.covers)
  | clockDidChange =>
      exact h.of_keeps h.consistent.keeps_clockDidChange (h.consistent.clockDidChange h.covers)
  | ensureUI =>
      exact h.of_keeps (Keeps.ensureUI ⟨rfl, rfl, fun _ => rfl, id⟩) h.consistent.ensureUI
  | @settingsChanged phase ui history isScreenLockEnabled screenLockTimeout screenSecurityIsEnabled
      hready hunlocked =>
      have hnot : ui.isScreenLockLocked ≠ true := by simp [hunlocked]
      exact h.of_keeps ⟨rfl, rfl, fun _ => rfl, id⟩ ⟨⟨h.consistent.oneAttempt,
        h.consistent.locked_of_showing, fun hlocked => absurd hlocked hnot,
        fun _ => hready⟩, h.covers⟩

variable {events : List ScreenLockEvent}

theorem Sound.of_run {phase : AppPhase} {isScreenLockEnabled screenSecurityIsEnabled : Bool}
    {screenLockTimeout : ℤ} {world : ScreenLockWorld} (run : LabelledRun Step
      (launched phase isScreenLockEnabled screenSecurityIsEnabled screenLockTimeout) events world) :
    world.Sound :=
  run.invariant (I := fun _ world => world.Sound) (sound_launched _ _ _ _)
    fun _ _ _ _ hsound hstep => hsound.step hstep

/-! ## Until the app is unlocked -/

/-- Only a success unlocks the app. -/
theorem Sound.locked_of_step (h : world.Sound) (hstep : Step world event world')
    (hevent : event.isSuccess = false) (hlocked : world.ui.isScreenLockLocked = true) :
    world'.ui.isScreenLockLocked = true := by
  cases hstep with
  | appBecameReady hready => exact h.consistent.keeps_appBecameReady.locked hlocked
  | applicationDidBecomeActive now =>
      rw [locked_didBecomeActive]
      exact Bool.or_eq_true_iff.mpr (.inl hlocked)
  | applicationWillResignActive now => exact (locked_willResignActive now).trans hlocked
  | applicationWillEnterForeground now => exact (keeps_willEnterForeground now).locked hlocked
  | applicationDidEnterBackground now => exact ensureUI_locked.trans hlocked
  | unlockSucceeded now hpresented => cases hevent
  | unlockFailed hpresented => exact (h.consistent.keeps_unlockFailed hpresented).locked hlocked
  | unlockUnexpectedlyFailed hpresented => exact hlocked
  | unlockCancelled hpresented =>
      exact (h.consistent.keeps_unlockCancelled hpresented).locked hlocked
  | deferredClear hdispatched => exact (h.consistent.keeps_deferredClear hdispatched).locked hlocked
  | unlockButtonWasTapped => exact keeps_unlockButtonWasTapped.locked hlocked
  | clockDidChange => exact h.consistent.keeps_clockDidChange.locked hlocked
  | ensureUI => exact ensureUI_locked.trans hlocked
  | settingsChanged isScreenLockEnabled screenLockTimeout screenSecurityIsEnabled hready
      hunlocked => exact hlocked

/-- **The lock lasts** until a success. -/
theorem Sound.locked_of_run (h : world.Sound) (run : LabelledRun Step world events world')
    (hevents : ∀ event ∈ events, event.isSuccess = false)
    (hlocked : world.ui.isScreenLockLocked = true) :
    world'.Sound ∧ world'.ui.isScreenLockLocked = true := by
  induction run with
  | refl => exact ⟨h, hlocked⟩
  | tail run last ih =>
      obtain ⟨hsound, hlocked⟩ := ih fun event hevent => hevents event (List.mem_append_left _ hevent)
      exact ⟨hsound.step last, hsound.locked_of_step last (hevents _ (by simp)) hlocked⟩

/-- The timeout has passed since the app left the active state; or, if it was unlocked after
that, since it entered the background. -/
def TimeoutPassed (world : ScreenLockWorld) (now : ℤ) : Prop :=
  ∃ left, world.history.leftActive = some left ∧
    (world.history.unlocked = none ∧ world.ui.screenLockTimeout ≤ now - left ∨
      world.history.unlocked.isSome ∧ ∃ background,
        world.history.enteredBackground = some background ∧
          world.ui.screenLockTimeout ≤ now - background)

/-- **Becoming active locks** where the timeout has passed. -/
theorem Sound.locks {now : ℤ} (h : world.Sound)
    (hstep : Step world (.applicationDidBecomeActive now) world')
    (hready : world.ui.isAppReady = true) (henabled : world.ui.isScreenLockEnabled = true)
    (hpassed : world.TimeoutPassed now) : world'.ui.isScreenLockLocked = true := by
  cases hstep with
  | @applicationDidBecomeActive ui history =>
      rw [locked_didBecomeActive, hready, henabled]
      cases hlocked : ui.isScreenLockLocked with
      | true => rfl
      | false =>
          have hshowing : ui.isShowingScreenLockUI = false := by
            by_contra hshowing
            rw [h.consistent.locked_of_showing (by simpa using hshowing)] at hlocked
            cases hlocked
          have hdate : ∃ date, ui.screenLockCountdownDate = some date ∧
              ui.screenLockTimeout ≤ now - date := by
            obtain ⟨left, hleft, hpassed⟩ := hpassed
            have hcountdown : ui.screenLockCountdownDate = _ := h.countdown rfl left hleft
            simp only [hshowing, Bool.false_or] at hcountdown
            rcases hpassed with ⟨hunlocked, hpassed⟩ | ⟨hunlocked, background, hbackground, hpassed⟩
            · exact ⟨left, by rw [hcountdown, hunlocked]; rfl, hpassed⟩
            · exact ⟨background, by rw [hcountdown, if_pos hunlocked, hbackground], hpassed⟩
          obtain ⟨date, hdate, hover⟩ := hdate
          simp only [hdate, Option.any_some, Bool.true_and, Bool.false_or, decide_eq_true_eq]
          omega

/-! ## From the launch on -/

theorem Sound.step_of_not_ready (h : world.Sound) (hstep : Step world event world')
    (hready : world.ui.isAppReady = false) :
    world'.ui.isScreenLockLocked = world.ui.isScreenLockEnabled ∨
      world'.ui.isAppReady = false ∧
        world'.ui.isScreenLockEnabled = world.ui.isScreenLockEnabled := by
  -- Nothing is shown before the app is ready, so no attempt is under way.
  have hidle : world.ui.authentications = 0 ∧ world.ui.deferredClears = 0 := by
    have hone := h.consistent.oneAttempt
    cases hshowing : world.ui.isShowingScreenLockUI with
    | false =>
        rw [hshowing, Bool.toNat_false] at hone
        omega
    | true =>
        rw [h.consistent.ready_of_locked (h.consistent.locked_of_showing hshowing)] at hready
        cases hready
  cases hstep with
  | appBecameReady => exact .inl ensureUI_locked
  | @applicationDidBecomeActive ui history now =>
      right
      cases hclear : ui.shouldClearAuthUIWhenActive <;>
        simpa [OWSScreenLockUI.applicationDidBecomeActive, setAppIsInactiveOrBackground,
          tryToActivate_eq, hclear] using hready
  | @applicationWillResignActive ui history now =>
      right
      cases hshowing : ui.isShowingScreenLockUI <;>
        simpa [OWSScreenLockUI.applicationWillResignActive, setAppIsInactiveOrBackground,
          startScreenLockCountdownIfNecessary, hshowing] using hready
  | applicationWillEnterForeground now =>
      right
      simpa [OWSScreenLockUI.applicationWillEnterForeground, setAppIsInBackground,
        tryToActivate_eq] using hready
  | applicationDidEnterBackground now =>
      right
      simpa [OWSScreenLockUI.applicationDidEnterBackground, setAppIsInBackground,
        startScreenLockCountdownIfNecessary] using hready
  | unlockSucceeded now hpresented | unlockFailed hpresented
  | unlockUnexpectedlyFailed hpresented | unlockCancelled hpresented =>
      exact absurd hidle.1 (Nat.ne_of_gt hpresented)
  | deferredClear hdispatched => exact absurd hidle.2 (Nat.ne_of_gt hdispatched)
  | @unlockButtonWasTapped phase ui history =>
      right
      cases hinactive : ui.appIsInactiveOrBackground <;>
        simpa [OWSScreenLockUI.unlockButtonWasTapped, hinactive] using hready
  | clockDidChange =>
      right
      simp only at hready
      simp [OWSScreenLockUI.clockDidChange, hready]
  | ensureUI => exact .inr ⟨ensureUI_ready.trans hready, ensureUI_enabled⟩
  | settingsChanged isScreenLockEnabled screenLockTimeout screenSecurityIsEnabled hready' =>
      exact absurd (hready.symm.trans hready') Bool.false_ne_true

theorem locked_since_launch {phase : AppPhase} {screenSecurityIsEnabled : Bool}
    {screenLockTimeout : ℤ} {world : ScreenLockWorld}
    (run : LabelledRun Step (launched phase true screenSecurityIsEnabled screenLockTimeout) events
      world) (hevents : ∀ event ∈ events, event.isSuccess = false) :
    world.ui.isAppReady = false ∧ world.ui.isScreenLockEnabled = true ∨
      world.ui.isScreenLockLocked = true := by
  induction run with
  | refl => exact .inl ⟨rfl, rfl⟩
  | @tail events event world world' run last ih =>
      have hsound := Sound.of_run run
      have hevent := hevents event (by simp)
      rcases ih fun event hevent => hevents event (List.mem_append_left _ hevent) with
        ⟨hready, henabled⟩ | hlocked
      · rcases hsound.step_of_not_ready last hready with hlocked | ⟨hready', henabled'⟩
        · exact .inr (hlocked.trans henabled)
        · exact .inl ⟨hready', henabled'.trans henabled⟩
      · exact .inr (hsound.locked_of_step last hevent hlocked)

/-- **The screen lock holds.**

* Where the content is not covered the app is not locked, and at most one attempt to authenticate
  is under way.
* If the lock is enabled at the launch, the content is covered until the first success.
* If it is enabled when the app becomes active, and the timeout has passed since it left the active
  state — or, if it was unlocked after that, since it entered the background — the content is
  covered until a success that comes after. -/
theorem screen_lock_holds {phase : AppPhase} {isScreenLockEnabled screenSecurityIsEnabled : Bool}
    {screenLockTimeout : ℤ} {events : List ScreenLockEvent} {world : ScreenLockWorld}
    (run : LabelledRun Step
      (launched phase isScreenLockEnabled screenSecurityIsEnabled screenLockTimeout) events world) :
    (¬world.ui.BlocksContent → world.ui.isScreenLockLocked = false) ∧
      world.ui.authentications ≤ 1 ∧
      (isScreenLockEnabled = true → world.ui.isAppReady = true →
        (∀ event ∈ events, event.isSuccess = false) → world.ui.BlocksContent) ∧
      ∀ now world', Step world (.applicationDidBecomeActive now) world' →
        world.ui.isAppReady = true → world.ui.isScreenLockEnabled = true →
        world.TimeoutPassed now →
        ∀ events' world'', LabelledRun Step world' events' world'' →
          (∀ event ∈ events', event.isSuccess = false) → world''.ui.BlocksContent := by
  have hsound := Sound.of_run run
  refine ⟨fun huncovered => ?_, ?_, ?_, ?_⟩
  · exact Bool.eq_false_iff.mpr fun hlocked => huncovered (hsound.covers hlocked)
  · have hone := hsound.consistent.oneAttempt
    have hle := Bool.toNat_le world.ui.isShowingScreenLockUI
    omega
  · rintro rfl hready hevents
    rcases locked_since_launch run hevents with ⟨hnot, -⟩ | hlocked
    · exact absurd (hnot.symm.trans hready) Bool.false_ne_true
    · exact hsound.covers hlocked
  · intro now world' hstep hready henabled hpassed events' world'' run' hevents
    have hlocked := hsound.locks hstep hready henabled hpassed
    obtain ⟨hsound', hlocked'⟩ := (hsound.step hstep).locked_of_run run' hevents hlocked
    exact hsound'.covers hlocked'

/-- The app is unlocked after its launch, left, and entered again after more than a minute. -/
theorem screen_lock_holds_sample : ∃ world world',
    LabelledRun Step (launched .active true false 60)
      [.appBecameReady, .unlockSucceeded 1, .applicationWillResignActive 2] world ∧
    Step world (.applicationDidBecomeActive 100) world' ∧ world'.ui.BlocksContent := by
  have run : LabelledRun Step (launched .active true false 60)
      ([] ++ [.appBecameReady] ++ [.unlockSucceeded 1] ++ [.applicationWillResignActive 2]) _ :=
    .tail (.tail (.tail .refl (.appBecameReady rfl)) (.unlockSucceeded 1 (by decide)))
      (.applicationWillResignActive 2)
  obtain ⟨-, -, -, hlocks⟩ := screen_lock_holds run
  exact ⟨_, _, run, .applicationDidBecomeActive 100, hlocks 100 _ (.applicationDidBecomeActive 100)
    rfl rfl ⟨2, rfl, .inl ⟨rfl, by decide⟩⟩ [] _ .refl fun event hevent => by cases hevent⟩

/-- The lock does not count from a success that arrives while the app is inactive: one that locks
immediately is unlocked when it becomes active again. -/
theorem success_does_not_start_countdown :
    ¬∀ phase isScreenLockEnabled screenSecurityIsEnabled screenLockTimeout events world now world'
        left,
      LabelledRun Step
        (launched phase isScreenLockEnabled screenSecurityIsEnabled screenLockTimeout) events
        world →
      Step world (.applicationDidBecomeActive now) world' →
      world.ui.isAppReady = true → world.ui.isScreenLockEnabled = true →
      world.history.leftActive = some left →
      world.ui.screenLockTimeout ≤ now - world.history.unlocked.getD left →
      world'.ui.BlocksContent := by
  intro hall
  have run : LabelledRun Step (launched .active true false 0)
      ([] ++ [.appBecameReady] ++ [.applicationWillResignActive 1] ++ [.unlockSucceeded 2]) _ :=
    .tail (.tail (.tail .refl (.appBecameReady rfl)) (.applicationWillResignActive 1))
      (.unlockSucceeded 2 (by decide))
  exact hall _ _ _ _ _ _ 3 _ 1 run (.applicationDidBecomeActive 3) rfl rfl rfl (by decide) rfl

end ScreenLockWorld

end ObjcSwiftLearning.Signal
