import ObjcSwiftLearning.Signal.ScreenLockHolds

/-!
# Prompts after a failed unlock

When an attempt to authenticate has failed or was cancelled, a flag keeps the next `ensureUI`
from presenting another.

* `PromptRule` — what has to happen before the next prompt, as the app stays locked.
* `PromptWorld.refusesPrompts` — **no prompt comes before that**, where the attempts end while
  the app is away, and the app does not enter the background before it is active again.
* `PromptWorld.not_refusesPrompts_failure` — while the app is active the flag is set too late:
  the handler of a failure has presented the next prompt by then.
-/

namespace ObjcSwiftLearning.Signal

/-- A failure or a cancellation. -/
def ScreenLockEvent.isRefusal : ScreenLockEvent → Bool
  | unlockFailed | unlockCancelled => true
  | _ => false

def ScreenLockEvent.reports : ScreenLockEvent → ℕ
  | unlockSucceeded _ | unlockFailed | unlockUnexpectedlyFailed | unlockCancelled => 1
  | _ => 0

def ScreenLockEvent.entersBackground : ScreenLockEvent → Bool
  | applicationDidEnterBackground _ => true
  | _ => false

/-- An event presents the auth UI: more attempts are under way than it leaves. -/
def ScreenLockWorld.Presents (world : ScreenLockWorld) (event : ScreenLockEvent)
    (world' : ScreenLockWorld) : Prop :=
  world.ui.authentications < world'.ui.authentications + event.reports

/-- What has to happen before the auth UI is presented again. -/
inductive PromptRule where
  /-- Nothing. -/
  | free
  /-- The app leaves the active state, or the unlock button is tapped. -/
  | untilLeft
  /-- The app becomes active and leaves that state, or the unlock button is tapped. -/
  | untilActive
  deriving DecidableEq

def PromptRule.next (rule : PromptRule) (phase : AppPhase) (event : ScreenLockEvent) :
    PromptRule :=
  match event with
  | .unlockFailed | .unlockCancelled => if phase.isActive then .untilLeft else .untilActive
  | .unlockButtonWasTapped => .free
  | .applicationDidBecomeActive _ => if rule = .untilActive then .untilLeft else rule
  | .applicationWillResignActive _ => if rule = .untilLeft then .free else rule
  | _ => rule

/-- The app, with what has to happen before the next prompt. -/
structure PromptWorld where
  world : ScreenLockWorld
  rule : PromptRule

namespace PromptWorld

/-- An event.  When the app is not locked, nothing has to happen. -/
def Step (s : PromptWorld) (event : ScreenLockEvent) (s' : PromptWorld) : Prop :=
  ScreenLockWorld.Step s.world event s'.world ∧
    s'.rule =
      if s'.world.ui.isScreenLockLocked then s.rule.next s.world.phase event else .free

def launched (phase : AppPhase) (isScreenLockEnabled screenSecurityIsEnabled : Bool)
    (screenLockTimeout : Int) : PromptWorld where
  world := .launched phase isScreenLockEnabled screenSecurityIsEnabled screenLockTimeout
  rule := .free

/-- The auth UI is presented only where nothing has to happen before. -/
def RefusesPrompt (s : PromptWorld) (event : ScreenLockEvent) (s' : PromptWorld) : Prop :=
  s.world.Presents event s'.world → s'.rule = .free

/-- The attempts end while the app is away, and until it is active again it does not enter the
background. -/
def EndsAway (s : PromptWorld) (event : ScreenLockEvent) : Prop :=
  (event.isRefusal = true → s.world.phase.isActive = false) ∧
    (event.entersBackground = true → s.rule ≠ .untilActive)

end PromptWorld

/-! ## Where the auth UI is not presented -/

namespace OWSScreenLockUI

/-- The flags that the auth UI depends on stay as they are. -/
structure SameFlags (ui ui' : OWSScreenLockUI) : Prop where
  authentications : ui'.authentications = ui.authentications
  showing : ui'.isShowingScreenLockUI = ui.isShowingScreenLockUI
  failed : ui'.didLastUnlockAttemptFail = ui.didLastUnlockAttemptFail
  clear : ui'.shouldClearAuthUIWhenActive = ui.shouldClearAuthUIWhenActive

variable {ui ui' : OWSScreenLockUI}

theorem SameFlags.ensureUI (h : SameFlags ui ui') (hpresents : ui'.presents = false) :
    SameFlags ui ui'.ensureUI := by
  rw [ensureUI_eq]
  split
  · refine ⟨?_, ?_, h.failed, h.clear⟩
    · rw [hpresents]
      exact h.authentications
    · rw [hpresents, Bool.or_false]
      exact h.showing
  · exact h

theorem presents_of_inactive (h : ui.appIsInactiveOrBackground = true) : ui.presents = false := by
  simp [presents, h]

theorem presents_of_failed (h : ui.didLastUnlockAttemptFail = true) : ui.presents = false := by
  simp [presents, h]

/-- The countdown changes no such flag. -/
theorem sameFlags_tryToActivate (now : Int) :
    SameFlags ui (ui.tryToActivateScreenLockBasedOnCountdown now) := by
  rw [tryToActivate_eq]
  exact ⟨rfl, rfl, rfl, rfl⟩

/-- An attempt ends while the app is away: the auth UI is cleared away later. -/
theorem Consistent.unlockFailed_of_inactive (h : ui.Consistent) (hpos : 0 < ui.authentications)
    (hinactive : ui.appIsInactiveOrBackground = true) :
    ui.unlockFailed = { ui.settled with
      shouldClearAuthUIWhenActive := true
      didLastUnlockAttemptFail := true } := by
  have hinactive' : ui.settled.appIsInactiveOrBackground = true := hinactive
  rw [OWSScreenLockUI.unlockFailed, (h.reported_eq hpos).1, clearAuthUIWhenActive,
    if_pos hinactive']

/-- The attempt of which no report has come is the one under way. -/
theorem Consistent.authentications_eq_one (h : ui.Consistent) (hpos : 0 < ui.authentications) :
    ui.authentications = 1 := by
  have hone := h.oneAttempt
  have hle := Bool.toNat_le ui.isShowingScreenLockUI
  omega

end OWSScreenLockUI

/-! ## The invariant -/

namespace PromptWorld

open OWSScreenLockUI

/-- Where something has to happen before the next prompt, the app is locked and the flag set. -/
structure Barred (s : PromptWorld) : Prop where
  sound : s.world.Sound
  flags : s.rule ≠ .free →
    s.world.ui.isScreenLockLocked = true ∧ s.world.ui.didLastUnlockAttemptFail = true
  untilActive : s.rule = .untilActive →
    s.world.phase.isActive = false ∧ s.world.ui.shouldClearAuthUIWhenActive = true
  untilLeft : s.rule = .untilLeft →
    s.world.phase.isActive = true ∧ s.world.ui.isShowingScreenLockUI = false

variable {s s' : PromptWorld} {event : ScreenLockEvent}

/-- No attempt is under way then. -/
theorem Barred.idle (h : s.Barred) (hrule : s.rule ≠ .free) :
    s.world.ui.authentications = 0 ∧ s.world.ui.deferredClears = 0 := by
  have hone := h.sound.consistent.oneAttempt
  cases hcase : s.rule with
  | free => exact absurd hcase hrule
  | untilLeft =>
      rw [(h.untilLeft hcase).2, Bool.toNat_false] at hone
      omega
  | untilActive =>
      have hle := Bool.toNat_le s.world.ui.isShowingScreenLockUI
      rw [(h.untilActive hcase).2, Bool.toNat_true] at hone
      omega

/-- Where nothing has to happen, there is nothing to show. -/
theorem Barred.of_free (hsound : s'.world.Sound) (hrule : s'.rule = .free) : s'.Barred where
  sound := hsound
  flags hne := absurd hrule hne
  untilActive heq := by cases heq.symm.trans hrule
  untilLeft heq := by cases heq.symm.trans hrule

theorem Barred.of_sameFlags (h : s.Barred) (hne : s.rule ≠ .free) (hsound : s'.world.Sound)
    (hrule : s'.rule = s.rule) (hphase : s'.world.phase.isActive = s.world.phase.isActive)
    (hlocked : s'.world.ui.isScreenLockLocked = true)
    (hflags : SameFlags s.world.ui s'.world.ui) (hreports : event.reports = 0) :
    s'.Barred ∧ s.RefusesPrompt event s' := by
  refine ⟨⟨hsound, fun _ => ⟨hlocked, hflags.failed.trans (h.flags hne).2⟩, ?_, ?_⟩, ?_⟩
  · rw [hrule, hphase, hflags.clear]
    exact h.untilActive
  · rw [hrule, hphase, hflags.showing]
    exact h.untilLeft
  · intro hpresents
    rw [ScreenLockWorld.Presents, hflags.authentications, hreports] at hpresents
    exact absurd hpresents (Nat.lt_irrefl _)

/-- **An attempt ends while the app is away**: the flag is set, and nothing is presented. -/
theorem Barred.of_refusal (hsound : s.world.Sound) (hsound' : s'.world.Sound)
    (haway : s.world.phase.isActive = false) (hphase : s'.world.phase = s.world.phase)
    (hlocked : s'.world.ui.isScreenLockLocked = true)
    (hrule : s'.rule = if s.world.phase.isActive then .untilLeft else .untilActive)
    (hpresented : 0 < s.world.ui.authentications) (hreports : event.reports = 1)
    (hflags : SameFlags s.world.ui.unlockFailed s'.world.ui) :
    s'.Barred ∧ s.RefusesPrompt event s' := by
  have hinactive : s.world.ui.appIsInactiveOrBackground = true := by
    rw [hsound.inactive]
    exact congrArg not haway
  have heq := hsound.consistent.unlockFailed_of_inactive hpresented hinactive
  have hauthentications : s'.world.ui.authentications = 0 :=
    hflags.authentications.trans (congrArg _ heq)
  have hnext : s'.rule = .untilActive :=
    hrule.trans (if_neg (fun hactive => by cases haway.symm.trans hactive))
  refine ⟨⟨hsound', fun _ => ⟨hlocked, hflags.failed.trans (congrArg _ heq)⟩,
    fun _ => ⟨?_, hflags.clear.trans (congrArg _ heq)⟩, fun heq => ?_⟩, ?_⟩
  · rw [hphase, haway]
  · cases heq.symm.trans hnext
  · intro hpresents
    rw [ScreenLockWorld.Presents, hauthentications, hreports,
      hsound.consistent.authentications_eq_one hpresented] at hpresents
    exact absurd hpresents (by decide)

/-- Only the end of an attempt begins a wait. -/
theorem PromptRule.next_free {phase : AppPhase} {event : ScreenLockEvent}
    (h : event.isRefusal = false) : PromptRule.free.next phase event = .free := by
  cases event with
  | unlockFailed | unlockCancelled => cases h
  | _ => rfl

/-- **What every step keeps.** -/
theorem Barred.step (h : s.Barred) (hstep : s.Step event s') (haway : s.EndsAway event) :
    s'.Barred ∧ s.RefusesPrompt event s' := by
  obtain ⟨world, rule⟩ := s
  obtain ⟨world', rule'⟩ := s'
  obtain ⟨hstep, hrule⟩ := hstep
  have hsound := h.sound.step hstep
  by_cases hfree : rule' = .free
  · exact ⟨.of_free hsound hfree, fun _ => hfree⟩
  have hlocked : world'.ui.isScreenLockLocked = true := by
    by_contra hunlocked
    exact hfree (hrule.trans (if_neg hunlocked))
  replace hrule : rule' = rule.next world.phase event := hrule.trans (if_pos hlocked)
  have hwaits : event.isRefusal = false → rule ≠ .free := by
    rintro hevent rfl
    exact hfree (hrule.trans (PromptRule.next_free hevent))
  cases hstep with
  | appBecameReady hready =>
      have hready' := h.sound.consistent.ready_of_locked (h.flags (hwaits rfl)).1
      cases hready.symm.trans hready'
  | @applicationDidBecomeActive ui history now =>
      have hne := hwaits rfl
      have hactive : rule = .untilActive := by
        cases rule with
        | free => exact absurd rfl hne
        | untilLeft => cases (h.untilLeft rfl).1
        | untilActive => rfl
      subst hactive
      have hclear : ui.shouldClearAuthUIWhenActive = true := (h.untilActive rfl).2
      have hfailed : ui.didLastUnlockAttemptFail = true := (h.flags hne).2
      -- The auth UI is cleared away, and the flag keeps the next from being presented.
      have hflags : SameFlags { ui with
          shouldClearAuthUIWhenActive := false
          isShowingScreenLockUI := false } (ui.applicationDidBecomeActive now) := by
        rw [OWSScreenLockUI.applicationDidBecomeActive, if_pos hclear,
          OWSScreenLockUI.setAppIsInactiveOrBackground]
        refine SameFlags.ensureUI ?_ (presents_of_failed ?_)
        · obtain ⟨h₁, h₂, h₃, h₄⟩ := @sameFlags_tryToActivate { ui with
            shouldClearAuthUIWhenActive := false
            isShowingScreenLockUI := false
            appIsInactiveOrBackground := false } now
          exact ⟨h₁, h₂, h₃, h₄⟩
        · exact (sameFlags_tryToActivate now).failed.trans hfailed
      refine ⟨⟨hsound, fun _ => ⟨hlocked, hflags.failed.trans hfailed⟩, fun heq => ?_,
        fun _ => ⟨rfl, hflags.showing⟩⟩, fun hpresents => ?_⟩
      · cases heq.symm.trans hrule
      · rw [ScreenLockWorld.Presents, hflags.authentications] at hpresents
        exact absurd hpresents (Nat.lt_irrefl _)
  | applicationWillResignActive now =>
      cases rule with
      | free => exact absurd rfl (hwaits rfl)
      | untilLeft => exact absurd hrule hfree
      | untilActive => cases (h.untilActive rfl).1
  | @applicationWillEnterForeground ui history now =>
      have hne := hwaits rfl
      refine h.of_sameFlags hne hsound hrule rfl hlocked ?_ rfl
      have hinactive : ui.appIsInactiveOrBackground = true := h.sound.inactive
      show SameFlags ui (ui.setAppIsInBackground false now)
      rw [OWSScreenLockUI.setAppIsInBackground]
      refine SameFlags.ensureUI ?_ (presents_of_inactive ?_)
      · obtain ⟨h₁, h₂, h₃, h₄⟩ :=
          @sameFlags_tryToActivate { ui with appIsInBackground := false } now
        exact ⟨h₁, h₂, h₃, h₄⟩
      · rw [tryToActivate_eq]
        exact hinactive
  | applicationDidEnterBackground now =>
      cases rule with
      | free => exact absurd rfl (hwaits rfl)
      | untilLeft => cases (h.untilLeft rfl).1
      | untilActive => exact absurd rfl (haway.2 rfl)
  | unlockSucceeded now hpresented | unlockUnexpectedlyFailed hpresented =>
      exact absurd (h.idle (hwaits rfl)).1 (Nat.ne_of_gt hpresented)
  | unlockFailed hpresented =>
      exact Barred.of_refusal h.sound hsound (haway.1 rfl) rfl hlocked hrule hpresented rfl
        ⟨rfl, rfl, rfl, rfl⟩
  | @unlockCancelled phase ui history hpresented =>
      have hflags : SameFlags ui.unlockFailed ui.unlockCancelled :=
        SameFlags.ensureUI ⟨rfl, rfl, rfl, rfl⟩ (presents_of_failed rfl)
      exact Barred.of_refusal h.sound hsound (haway.1 rfl) rfl hlocked hrule hpresented rfl hflags
  | deferredClear hdispatched =>
      exact absurd (h.idle (hwaits rfl)).2 (Nat.ne_of_gt hdispatched)
  | unlockButtonWasTapped => exact absurd hrule hfree
  | @clockDidChange phase ui history =>
      have hne := hwaits rfl
      refine h.of_sameFlags hne hsound hrule rfl hlocked ?_ rfl
      show SameFlags ui ui.clockDidChange
      rw [OWSScreenLockUI.clockDidChange]
      split
      · exact ⟨rfl, rfl, rfl, rfl⟩
      · exact SameFlags.ensureUI ⟨rfl, rfl, rfl, rfl⟩ (presents_of_failed (h.flags hne).2)
  | ensureUI =>
      have hne := hwaits rfl
      refine h.of_sameFlags hne hsound hrule rfl hlocked ?_ rfl
      exact SameFlags.ensureUI ⟨rfl, rfl, rfl, rfl⟩ (presents_of_failed (h.flags hne).2)
  | settingsChanged isScreenLockEnabled screenLockTimeout screenSecurityIsEnabled hready
      hunlocked =>
      cases hunlocked.symm.trans (h.flags (hwaits rfl)).1

/-! ## Runs -/

variable {phase : AppPhase} {isScreenLockEnabled screenSecurityIsEnabled : Bool}
  {screenLockTimeout : Int} {events : List ScreenLockEvent}

theorem barred_launched :
    (launched phase isScreenLockEnabled screenSecurityIsEnabled screenLockTimeout).Barred :=
  .of_free (ScreenLockWorld.sound_launched _ _ _ _) rfl

theorem Barred.of_run
    (run : LabelledRun (fun s event s' => Step s event s' ∧ EndsAway s event)
      (launched phase isScreenLockEnabled screenSecurityIsEnabled screenLockTimeout) events s) :
    s.Barred := by
  induction run with
  | refl => exact barred_launched
  | tail run last ih => exact (ih.step last.1 last.2).1

/-- **No new prompt after a failed unlock**, in every run in which the attempts end while the app
is away, and it does not enter the background then before it is active again. -/
theorem refusesPrompts
    (haway : LabelledRun.EveryStep Step
      (launched phase isScreenLockEnabled screenSecurityIsEnabled screenLockTimeout) events
      fun s event _ => EndsAway s event) :
    LabelledRun.EveryStep Step
      (launched phase isScreenLockEnabled screenSecurityIsEnabled screenLockTimeout) events
      RefusesPrompt := by
  intro earlier event later before after hevents run last
  have hbefore : before.Barred := by
    refine .of_run (run.restrict ?_)
    rw [hevents] at haway
    exact haway.of_append
  exact (hbefore.step last (haway earlier event later before after hevents run last)).2

theorem endsAway_of_other (hrefusal : event.isRefusal = false)
    (hbackground : event.entersBackground = false) : s.EndsAway event :=
  ⟨fun h => (by cases hrefusal.symm.trans h), fun h => by cases hbackground.symm.trans h⟩

/-- The app is left for the auth UI, which fails; then it is active again. -/
theorem refusesPrompts_failedAway :
    LabelledRun.EveryStep Step (launched .active true false 60)
      ([] ++ [.appBecameReady] ++ [.applicationWillResignActive 1] ++ [.unlockFailed] ++
        [.applicationDidBecomeActive 2] ++ [.ensureUI]) RefusesPrompt := by
  refine refusesPrompts ?_
  refine LabelledRun.EveryStep.concat (.concat (.concat (.concat (.concat .nil ?_) ?_) ?_) ?_) ?_
  · exact fun _ _ _ _ => endsAway_of_other rfl rfl
  · exact fun _ _ _ _ => endsAway_of_other rfl rfl
  · intro before after run _
    obtain ⟨⟨first, _⟩, -, hleft, -⟩ := run.of_append_singleton
    obtain ⟨world, rule⟩ := before
    refine ⟨fun _ => ?_, fun h => by cases h⟩
    dsimp only at hleft
    cases hleft
    rfl
  · exact fun _ _ _ _ => endsAway_of_other rfl rfl
  · exact fun _ _ _ _ => endsAway_of_other rfl rfl

theorem not_refusesPrompts_failure :
    ¬∀ (phase : AppPhase) (isScreenLockEnabled screenSecurityIsEnabled : Bool)
      (screenLockTimeout : Int) (events : List ScreenLockEvent),
      LabelledRun.EveryStep Step
        (launched phase isScreenLockEnabled screenSecurityIsEnabled screenLockTimeout) events
        RefusesPrompt := by
  intro h
  have first : Step (launched .active true false 60) .appBecameReady
      ⟨⟨.active, (OWSScreenLockUI.startObserving true true false 60).appBecameReady, .empty⟩,
        .free⟩ :=
    ⟨.appBecameReady rfl, rfl⟩
  have second : Step
      ⟨⟨.active, (OWSScreenLockUI.startObserving true true false 60).appBecameReady, .empty⟩,
        .free⟩ .unlockFailed
      ⟨⟨.active, (OWSScreenLockUI.startObserving true true false 60).appBecameReady.unlockFailed,
        .empty⟩, .untilLeft⟩ :=
    ⟨.unlockFailed (by decide), rfl⟩
  have hrefuses := h .active true false 60 [.appBecameReady, .unlockFailed] [.appBecameReady]
    .unlockFailed [] _ _ rfl (.single first) second
  cases hrefuses (by unfold ScreenLockWorld.Presents; decide)

end PromptWorld

end ObjcSwiftLearning.Signal
