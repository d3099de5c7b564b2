import ObjcSwiftLearning.Signal.CallLog

/-!
# Calls whose promises have settled

A call that rings here has no record yet.  When its promise settles it ends, and the handler that
ends it makes the record.

* `CallService.Unsettled` — the promise of a call is pending, or a handler of it is in the queue.
* `CallService.Awaited` — so it is for a current call that rings here.
* `CallService.Undisturbed` — what most handlers do: nothing about promises of the current call.
* `CallService.Awaited.step` — every step that does not lose the log keeps it.
* `CallService.ended_calls_logged_once` — what follows for every run of such steps.
-/

namespace ObjcSwiftLearning.Signal

namespace CallService

variable {s t s' : CallService} {callData : SignalCallData} {call other client : ℕ}
  {state : CallState} {error : CallError} {event : Event} {events : List Event} {contact : String}
  {callId : UInt64} {promise : CallPromise}

/-! ## What is waited for -/

/-- The promise of a call is pending, or one of its handlers has not been run. -/
def Unsettled (s : CallService) (call : ℕ) : Prop :=
  s.promises call ≠ none ∨ ∃ block ∈ s.mainQueue, block.Handles call

/-- Blocks that are appended settle nothing. -/
theorem Unsettled.of_append {blocks : List CallBlock} (h : s.Unsettled other)
    (hpromises : s'.promises other = s.promises other)
    (hqueue : s'.mainQueue = s.mainQueue ++ blocks) : s'.Unsettled other := by
  rw [Unsettled, hpromises, hqueue]
  refine h.imp_right ?_
  rintro ⟨block, hmem, hhandles⟩
  exact ⟨block, List.mem_append_left _ hmem, hhandles⟩

structure Raced (s : CallService) : Prop where
  isCallConnected : ∀ callData, s.callData = some callData → callData.isCallConnected = true →
    (s.calls callData.call).hasConnected = true
  fulfilled : ∀ call, .fulfilled call .callConnected ∈ s.mainQueue →
    (s.calls call).hasConnected = true

/-- And a current call that rings here is waited for. -/
structure Awaited (s : CallService) : Prop where
  raced : s.Raced
  unsettled : ∀ call, s.call = some call → (s.calls call).direction = .incoming →
    (s.calls call).hasConnected = false → s.Unsettled call

theorem awaited_initial : initial.Awaited where
  raced := ⟨by simp [initial], by simp [initial]⟩
  unsettled := by simp [initial, CallService.call]

/-- It is enough to look at the current call. -/
theorem Awaited.of_call (hraced : s.Raced) (hcall : s.call = some call)
    (hunsettled : (s.calls call).direction = .incoming → (s.calls call).hasConnected = false →
      s.Unsettled call) : s.Awaited where
  raced := hraced
  unsettled other hother := by
    obtain rfl := Option.some.inj (hcall.symm.trans hother)
    exact hunsettled

/-- A call keeps its direction, and has connected once it has. -/
structure Onward (a b : SignalCall) : Prop where
  direction : b.direction = a.direction
  hasConnected : a.hasConnected = true → b.hasConnected = true

theorem Onward.withState {a : SignalCall} : Onward a (a.withState state) where
  direction := rfl
  hasConnected h := by rw [SignalCall.withState, h, Bool.true_or]

theorem callRule_onward : CallRule fun _ a b => Onward a b where
  refl _ _ := ⟨rfl, id⟩
  trans _ _ _ _ h h' := ⟨h'.direction.trans h.direction, h'.hasConnected ∘ h.hasConnected⟩
  callRecord _ _ _ := ⟨rfl, id⟩
  error _ _ _ := ⟨rfl, id⟩
  options _ _ _ _ _ := ⟨rfl, id⟩
  terminated _ _ _ _ := .withState
  advances _ _ _ _ := .withState

theorem onward_of_step (hs : s.Coherent) (hstep : Step s event s') :
    Evolves (fun _ a b => Onward a b) s s' :=
  callRule_onward.step hs hstep fun _ _ _ _ => .withState

/-! ## Handlers that do not settle anything -/

/-- The promise of the current call is waited for as it was, or the call is over. -/
structure Undisturbed (s s' : CallService) : Prop where
  current : ∀ callData', s'.callData = some callData' → ∃ callData, s.callData = some callData ∧
    callData'.call = callData.call ∧ callData'.isCallConnected = callData.isCallConnected
  unsettled : ∀ call, s'.call = some call → s.Unsettled call → s'.Unsettled call
  fulfilled : ∀ call, .fulfilled call .callConnected ∈ s'.mainQueue →
    .fulfilled call .callConnected ∈ s.mainQueue

theorem Undisturbed.call_eq (h : Undisturbed s s') (hcall : s'.call = some call) :
    s.call = some call := by
  obtain ⟨callData', hdata', rfl⟩ := Option.map_eq_some_iff.mp hcall
  obtain ⟨callData, hdata, hsame, -⟩ := h.current callData' hdata'
  rw [CallService.call, hdata, hsame, Option.map_some]

theorem Undisturbed.trans (h : Undisturbed s t) (h' : Undisturbed t s') : Undisturbed s s' where
  current callData' hdata' := by
    obtain ⟨between, hbetween, hcall', hconnected'⟩ := h'.current callData' hdata'
    obtain ⟨callData, hdata, hcall, hconnected⟩ := h.current between hbetween
    exact ⟨callData, hdata, hcall'.trans hcall, hconnected'.trans hconnected⟩
  unsettled call hcall hunsettled :=
    h'.unsettled call hcall (h.unsettled call (h'.call_eq hcall) hunsettled)
  fulfilled call hmem := h.fulfilled call (h'.fulfilled call hmem)

/-- Blocks are appended, none of them a handler of `callConnectedPromise`. -/
theorem Undisturbed.of_append {blocks : List CallBlock} (hdata : s'.callData = s.callData)
    (hpromises : s'.promises = s.promises) (hqueue : s'.mainQueue = s.mainQueue ++ blocks)
    (hblocks : ∀ call, .fulfilled call .callConnected ∉ blocks) : Undisturbed s s' where
  current callData' hdata' := ⟨callData', hdata ▸ hdata', rfl, rfl⟩
  unsettled call _ hunsettled := hunsettled.of_append (by rw [hpromises]) hqueue
  fulfilled call hmem := by
    rw [hqueue] at hmem
    exact (List.mem_append.mp hmem).resolve_right (hblocks call)

theorem Undisturbed.of_same (hdata : s'.callData = s.callData)
    (hpromises : s'.promises = s.promises) (hqueue : s'.mainQueue = s.mainQueue) :
    Undisturbed s s' :=
  .of_append hdata hpromises (hqueue.trans (List.append_nil _).symm) fun _ => List.not_mem_nil

theorem Undisturbed.of_rest (hrest : s'.rest = s.rest) : Undisturbed s s' :=
  .of_same (callData_of_rest hrest) (promises_of_rest hrest) (mainQueue_of_rest hrest)

theorem undisturbed_terminateCall : Undisturbed s s.terminateCall := by
  refine ⟨fun callData' hdata' => ?_, fun call hcall => ?_, fun call hmem => ?_⟩
  · rw [callData_terminateCall] at hdata'
    cases hdata'
  · rw [CallService.call, callData_terminateCall] at hcall
    cases hcall
  · have hqueue : s.terminateCall.mainQueue = s.mainQueue ∨
        ∃ other, s.terminateCall.mainQueue =
          s.mainQueue ++ [.rejected other .obsoleteCall] := by
      rw [terminateCall]
      split
      · exact .inl rfl
      · split <;> split
        · exact .inr ⟨_, rfl⟩
        · exact .inr ⟨_, rfl⟩
        · exact .inl rfl
        · exact .inl rfl
    rcases hqueue with hsame | ⟨other, happended⟩
    · rwa [hsame] at hmem
    · rw [happended] at hmem
      exact (List.mem_append.mp hmem).resolve_right fun hnew =>
        CallBlock.noConfusion (List.mem_singleton.mp hnew)

theorem undisturbed_handleFailedCall : Undisturbed s (s.handleFailedCall (some call) error) := by
  rw [handleFailedCall_some]
  split
  · exact (Undisturbed.of_rest rest_failed).trans undisturbed_terminateCall
  · exact .of_rest rest_failed

theorem Quiet.undisturbed (h : Quiet s s') : Undisturbed s s' where
  current callData' hdata' := by
    obtain ⟨callData, hdata, hcall, hconnected, -⟩ := h.current hdata'
    exact ⟨callData, hdata, hcall, hconnected⟩
  unsettled call _ hunsettled := by
    obtain ⟨blocks, hqueue, -⟩ := h.mainQueue
    exact hunsettled.of_append (by rw [h.promises]) hqueue
  fulfilled call hmem := by
    obtain ⟨blocks, hqueue, hblocks⟩ := h.mainQueue
    rw [hqueue] at hmem
    exact (List.mem_append.mp hmem).resolve_right fun hnew => (hblocks _ hnew).1 call _ rfl

theorem Ordinary.undisturbed (h : Ordinary s s') : Undisturbed s s' := by
  cases h with
  | quiet hquiet => exact hquiet.undisturbed
  | failed before hlt after =>
      exact (before.undisturbed.trans undisturbed_handleFailedCall).trans after.undisturbed
  | advanced hcall hadvances => exact .of_rest rest_setState
  | hungUp hcall =>
      exact ((Undisturbed.of_rest rest_handleMissedIfHungUp).trans
        (.of_rest rest_setState)).trans undisturbed_terminateCall
  | video hasLocalVideo hcall => exact .of_rest rest_updateIsVideoEnabled

theorem undisturbed_handleLocalHungupCall : Undisturbed s (s.handleLocalHungupCall call) := by
  rw [handleLocalHungupCall]
  split
  · exact undisturbed_terminateCall
  · split
    · exact undisturbed_handleFailedCall
    · have hhungUp : Undisturbed s ((s.setState call .localHangup).updateHungUpCallRecord call) :=
        (Undisturbed.of_rest rest_setState).trans (.of_rest rest_updateHungUpCallRecord)
      dsimp only
      split
      · exact hhungUp.trans undisturbed_terminateCall
      · exact (hhungUp.trans (.of_rest rest_ensureAudioState)).trans undisturbed_terminateCall

theorem undisturbed_handleDeclineCall : Undisturbed s (s.handleDeclineCall call) := by
  rw [handleDeclineCall]
  split
  · exact (Undisturbed.of_rest rest_saveCallRecord).trans undisturbed_handleLocalHungupCall
  · have hdeclined : ∀ record, Undisturbed s (s.updateCallType record .incomingDeclined) :=
      fun _ => .of_rest rfl
    exact (hdeclined _).trans undisturbed_handleLocalHungupCall

theorem undisturbed_setAudioOption {f : SignalCall → SignalCall} :
    Undisturbed s (s.setAudioOption call f) := by
  rw [setAudioOption]
  split
  · exact .of_rest rfl
  · split
    · exact .of_rest rfl
    · exact .of_rest rfl

theorem undisturbed_missed : Undisturbed s (s.missed contact callId) := by
  have hcreated : Undisturbed s (s.created (.incomingCall contact callId)) := .of_same rfl rfl rfl
  exact hcreated.trans (.of_rest rest_handleMissedCall)

/-! ## What is waited for stays waited for -/

theorem never_before (honward : Evolves (fun _ a b => Onward a b) s s') (hlt : call < s.callCount)
    (hnever : (s'.calls call).hasConnected = false) : (s.calls call).hasConnected = false :=
  Bool.eq_false_iff.mpr fun hconnected => by
    rw [(honward.earlier call hlt).hasConnected hconnected] at hnever
    exact nomatch hnever

theorem Raced.undisturbed (h : s.Raced) (hcoherent : s.Coherent)
    (honward : Evolves (fun _ a b => Onward a b) s s') (hu : Undisturbed s s') : s'.Raced where
  isCallConnected callData' hdata' hconnected := by
    obtain ⟨callData, hdata, hcall, hsame⟩ := hu.current callData' hdata'
    rw [hsame] at hconnected
    rw [hcall]
    refine (honward.earlier callData.call (hcoherent.current _ ?_)).hasConnected
      (h.isCallConnected callData hdata hconnected)
    exact call_of_some hdata
  fulfilled call hmem := by
    have hmem' := hu.fulfilled call hmem
    exact (honward.earlier call (hcoherent.known.mainQueue _ hmem')).hasConnected
      (h.fulfilled call hmem')

/-- Nothing has happened to the promise of the current call. -/
theorem Awaited.undisturbed (h : s.Awaited) (hcoherent : s.Coherent)
    (honward : Evolves (fun _ a b => Onward a b) s s') (hu : Undisturbed s s') : s'.Awaited where
  raced := h.raced.undisturbed hcoherent honward hu
  unsettled call hcall hdirection hnever := by
    have hcall' := hu.call_eq hcall
    have hlt := hcoherent.current call hcall'
    refine hu.unsettled call hcall (h.unsettled call hcall' ?_ (never_before honward hlt hnever))
    rw [← (honward.earlier call hlt).direction]
    exact hdirection

/-! ### Calls that connect -/

theorem mainQueue_handleConnectedCall (hclient : callData.peerConnectionClient.isSome) :
    (s.handleConnectedCall callData).mainQueue = s.mainQueue ∨
      (s.handleConnectedCall callData).mainQueue =
        s.mainQueue ++ [.fulfilled callData.call .callConnected] := by
  obtain ⟨client, hclient⟩ := Option.isSome_iff_exists.mp hclient
  rw [handleConnectedCall, hclient]
  dsimp only
  rw [mainQueue_of_rest rest_setLocalVideoEnabled, mainQueue_of_rest rest_ensureAudioState,
    mainQueue_of_rest rest_setState, fulfillCallConnected]
  split
  · exact .inr rfl
  · exact .inl rfl

section

variable (h : s.Awaited) (hcoherent : s.Coherent)
include h hcoherent

theorem Awaited.handleConnectedCall (hdata : s.callData = some callData)
    (hclient : callData.peerConnectionClient.isSome) :
    (s.handleConnectedCall callData).Awaited := by
  have honward : Evolves (fun _ a b => Onward a b) s (s.handleConnectedCall callData) :=
    callRule_onward.handleConnectedCall hclient .withState
  have hcall' : (s.handleConnectedCall callData).call = some callData.call :=
    (call_handleConnectedCall hdata hclient).trans (call_of_some hdata)
  have hconnected : ((s.handleConnectedCall callData).calls callData.call).hasConnected = true := by
    rw [calls_handleConnectedCall hclient, Function.update_self]
    exact Bool.or_true _
  have hbefore : ∀ other, .fulfilled other .callConnected ∈ s.mainQueue →
      ((s.handleConnectedCall callData).calls other).hasConnected = true := fun other hmem =>
    (honward.earlier other (hcoherent.known.mainQueue _ hmem)).hasConnected
      (h.raced.fulfilled other hmem)
  refine .of_call ⟨fun callData' hdata' _ => ?_, fun other hmem => ?_⟩ hcall' fun _ hnever => ?_
  · rw [call_of_some hdata'] at hcall'
    rw [Option.some.inj hcall']
    exact hconnected
  · rcases mainQueue_handleConnectedCall hclient with hsame | happended
    · exact hbefore other (hsame ▸ hmem)
    · rw [happended] at hmem
      rcases List.mem_append.mp hmem with hold | hnew
      · exact hbefore other hold
      · obtain ⟨rfl, -⟩ := CallBlock.fulfilled.inj (List.mem_singleton.mp hnew)
        exact hconnected
  · rw [hconnected] at hnever
    cases hnever

/-! ### New calls -/

/-- The promise of a new call is pending, unless the call is an outgoing one. -/
theorem Awaited.opened (honward : Evolves (fun _ a b => Onward a b) s s')
    (hdata : s'.callData = some ⟨s.callCount, false, false, none, false, none, none⟩)
    (hqueue : s'.mainQueue = s.mainQueue)
    (hpromise : s'.promises s.callCount = some .iceServers) : s'.Awaited := by
  refine .of_call ⟨fun callData hcallData hconnected => ?_, fun other hmem => ?_⟩
    (call_of_some hdata) fun _ _ => .inl ?_
  · obtain rfl := Option.some.inj (hdata.symm.trans hcallData)
    exact nomatch hconnected
  · rw [hqueue] at hmem
    exact (honward.earlier other (hcoherent.known.mainQueue _ hmem)).hasConnected
      (h.raced.fulfilled other hmem)
  · rw [hpromise]
    exact Option.some_ne_none _

end

/-! ### Promises that settle -/

theorem Awaited.settled {block : CallBlock} (h : s.Awaited)
    (hblock : ∀ other, block ≠ .fulfilled other .callConnected)
    (hhandles : s.call = some call → (s.calls call).direction = .incoming →
      (s.calls call).hasConnected = false → block.Handles call) :
    ((s.wait call none).dispatch block).Awaited where
  raced := ⟨h.raced.isCallConnected, fun other hmem => by
    refine h.raced.fulfilled other ((List.mem_append.mp hmem).resolve_right fun hnew => ?_)
    exact hblock other (List.mem_singleton.mp hnew).symm⟩
  unsettled other hother hdirection hnever := by
    by_cases heq : other = call
    · subst heq
      exact .inr ⟨block, List.mem_append_right _ (List.mem_singleton_self _),
        hhandles hother hdirection hnever⟩
    · exact (h.unsettled other hother hdirection hnever).of_append (promises_wait_of_ne heq) rfl

theorem Awaited.settle {settlement : Settlement} (h : s.Awaited)
    (hsettle : CanSettle promise settlement)
    (hkeeps : ¬s.Loses (.promiseSettled call promise settlement)) :
    (s.settle call promise settlement).Awaited := by
  cases settlement with
  | fulfilled =>
      refine h.settled (fun other heq => ?_) fun _ _ _ => rfl
      obtain ⟨-, rfl⟩ := CallBlock.fulfilled.inj heq
      cases hsettle
  | rejected error => exact h.settled (fun _ => by simp) fun _ _ _ => rfl
  | cancelled =>
      have hnot : s.call = some call → (s.calls call).direction = .incoming →
          (s.calls call).hasConnected ≠ false := fun hcall hdirection hnever =>
        hkeeps ⟨hcall, hdirection, hnever⟩
      rw [CallService.settle]
      split
      · next houtgoing =>
          refine ⟨⟨h.raced.isCallConnected, h.raced.fulfilled⟩,
            fun other hother hdirection hnever => ?_⟩
          have hne : other ≠ call := fun heq => by
            subst heq
            cases houtgoing.symm.trans hdirection
          exact (h.unsettled other hother hdirection hnever).of_append (promises_wait_of_ne hne)
            (List.append_nil _).symm
      · exact h.settled (fun _ => by simp) fun hcall hdirection hnever =>
          absurd hnever (hnot hcall hdirection)

/-! ### Handlers of promises -/

theorem Awaited.pop {block : CallBlock} (h : s.Awaited) (hhead : s.mainQueue.head? = some block)
    (hother : ∀ call, s.call = some call → ¬block.Handles call) :
    s.popped.Awaited where
  raced := ⟨h.raced.isCallConnected, fun call hmem =>
    h.raced.fulfilled call (List.mem_of_mem_tail hmem)⟩
  unsettled call hcall hdirection hnever := by
    refine (h.unsettled call hcall hdirection hnever).imp_right fun ⟨later, hmem, hhandles⟩ =>
      ⟨later, ?_, hhandles⟩
    obtain ⟨queue, hqueue⟩ := List.head?_eq_some_iff.mp hhead
    rw [hqueue] at hmem
    change later ∈ s.mainQueue.tail
    rw [hqueue, List.tail_cons]
    refine (List.mem_cons.mp hmem).resolve_left ?_
    rintro rfl
    exact hother call hcall hhandles

theorem Fulfilled.undisturbed (h : Fulfilled s call promise s') (hne : s.call ≠ some call) :
    Undisturbed s s' := by
  cases h with
  | rejected error => exact .of_append rfl rfl rfl (by simp)
  | client hpromise hdata hcall => exact absurd (hcall ▸ call_of_some hdata) hne
  | @waits t next hnext before =>
      refine before.undisturbed.trans ⟨fun callData hdata => ⟨callData, hdata, rfl, rfl⟩,
        fun other hother hunsettled => ?_, fun _ => id⟩
      refine hunsettled.of_append (promises_wait_of_ne fun heq => hne ?_) (List.append_nil _).symm
      rw [← before.call_eq, ← heq]
      exact hother
  | raced before hdata hcall hconnected => exact absurd (hcall ▸ call_of_some hdata) hne
  | connected hpromise hquiet => exact hquiet.undisturbed

theorem Raced.awaited_wait (h : s.Raced) (hcall : s.call = some call) :
    (s.wait call (some promise)).Awaited := by
  refine .of_call ⟨h.isCallConnected, h.fulfilled⟩ hcall fun _ _ => .inl ?_
  rw [promises_wait_self]
  exact Option.some_ne_none _

theorem Raced.awaited_rejected (h : s.Raced) (hcall : s.call = some call) :
    (s.dispatch (.rejected call error)).Awaited := by
  refine .of_call ⟨h.isCallConnected, fun other hmem => h.fulfilled other ?_⟩ hcall fun _ _ =>
    .inr ⟨_, List.mem_append_right _ (List.mem_singleton_self _), rfl⟩
  exact (List.mem_append.mp hmem).resolve_right fun hnew => nomatch List.mem_singleton.mp hnew

theorem Raced.awaited_connected (h : s.Raced) (hcall : s.call = some call)
    (hconnected : (s.calls call).hasConnected = true) : s.Awaited := by
  refine .of_call h hcall fun _ hnever => ?_
  rw [hconnected] at hnever
  exact nomatch hnever

theorem Raced.setPeerConnectionClient (h : s.Raced) (hdata : s.callData = some callData) :
    (s.setPeerConnectionClient callData).Raced where
  isCallConnected callData' hdata' hconnected := by
    obtain rfl := Option.some.inj hdata'
    exact h.isCallConnected callData hdata hconnected
  fulfilled other hmem := by
    refine h.fulfilled other ((List.mem_append.mp hmem).resolve_right fun hnew => ?_)
    obtain ⟨_, -, hblock⟩ := List.mem_map.mp hnew
    exact nomatch hblock

theorem Raced.quiet (h : s.Raced) (hcoherent : s.Coherent) (hquiet : Quiet s s') : s'.Raced :=
  h.undisturbed hcoherent (callRule_onward.of_calls hquiet.calls hquiet.callCount)
    hquiet.undisturbed

/-- **The handler of the current call leaves it waited for**, until it has connected. -/
theorem Raced.fulfilled_current (h : s.Raced) (hcoherent : s.Coherent) (hcall : s.call = some call)
    (hfulfilled : Fulfilled s call promise s')
    (hconnected : promise = .callConnected → (s.calls call).hasConnected = true) :
    s'.Awaited := by
  cases hfulfilled with
  | rejected error => exact h.awaited_rejected hcall
  | client hpromise hdata hsame =>
      exact (h.setPeerConnectionClient hdata).awaited_wait (congrArg some hsame)
  | waits hnext before => exact (h.quiet hcoherent before).awaited_wait (before.call_eq.trans hcall)
  | @raced t callData before hdata hsame hfulfilled =>
      have hraced := h.quiet hcoherent before
      have hconnected' : (t.calls call).hasConnected = true := by
        rw [before.calls, ← hsame]
        exact h.isCallConnected callData hdata hfulfilled
      refine Raced.awaited_connected ⟨hraced.isCallConnected, fun other hmem => ?_⟩
        (before.call_eq.trans hcall) hconnected'
      rcases List.mem_append.mp hmem with hold | hnew
      · exact hraced.fulfilled other hold
      · obtain ⟨rfl, -⟩ := CallBlock.fulfilled.inj (List.mem_singleton.mp hnew)
        exact hconnected'
  | connected hpromise hquiet =>
      refine (h.quiet hcoherent hquiet).awaited_connected (hquiet.call_eq.trans hcall) ?_
      rw [hquiet.calls]
      exact hconnected hpromise

theorem Raced.handleRejected (h : s.Raced) (hcoherent : s.Coherent) (hcall : s.call = some call) :
    (s.handleRejected call error).Awaited := by
  have hfailed := h.undisturbed hcoherent callRule_onward.handleFailedCall
    (@undisturbed_handleFailedCall s call error)
  have hnone : (s.handleFailedCall (some call) error).callData = none := by
    rw [handleFailedCall_some, if_pos hcall, callData_terminateCall]
  have hno : ∀ other, (s.handleFailedCall (some call) error).call ≠ some other := by
    simp [CallService.call, hnone]
  rw [CallService.handleRejected]
  split
  · exact ⟨hfailed, fun other hother => absurd hother (hno other)⟩
  · rw [if_pos hcall]
    refine ⟨⟨hfailed.isCallConnected, fun other hmem => hfailed.fulfilled other ?_⟩,
      fun other hother => absurd hother (hno other)⟩
    exact (List.mem_append.mp hmem).resolve_right fun hnew =>
        CallBlock.noConfusion (List.mem_singleton.mp hnew)

/-! ## Steps -/

/-- **A step that does not lose the log** leaves a call that rings here waited for. -/
theorem Awaited.step (h : s.Awaited) (hcoherent : s.Coherent) (hstep : Step s event s')
    (hkeeps : ¬s.Loses event) : s'.Awaited := by
  have honward := onward_of_step hcoherent hstep
  have hundisturbed : Undisturbed s s' → s'.Awaited := h.undisturbed hcoherent honward
  have honward' : Evolves (fun _ a b => Onward a b) s.popped s' :=
    { honward with }
  have hraced : Raced s.popped := ⟨h.raced.isCallConnected, fun call hmem =>
    h.raced.fulfilled call (List.mem_of_mem_tail hmem)⟩
  -- Most steps leave the promise alone; those that do not have a lemma of their own.
  cases effect_of_step hcoherent.current hcoherent.known hstep with
  | ordinary hevent hordinary => exact hundisturbed hordinary.undisturbed
  | notified hevent => exact hundisturbed (.of_rest rest_updateIsVideoEnabled)
  | applicationStateChanged isInBackground => exact hundisturbed (.of_same rfl rfl rfl)
  | untrusted contact callId =>
      have hcreated : Undisturbed s (s.created (.incomingCall contact callId)) :=
        .of_same rfl rfl rfl
      exact hundisturbed ((hcreated.trans (.of_rest rest_saveCallRecord)).trans
        undisturbed_terminateCall)
  | rang contact callId hcall => exact h.opened hcoherent honward rfl rfl promises_wait_self
  | missed contact callId hcall => exact hundisturbed undisturbed_missed
  | collided callId hcall hstate =>
      exact hundisturbed ((undisturbed_missed.trans (.of_rest rest_setState)).trans
        undisturbed_terminateCall)
  | replaced callId hcall hidle hdialing hringing =>
      exact hundisturbed (undisturbed_missed.trans undisturbed_terminateCall)
  | refused contact signalingId hasLocalVideo hdata =>
      have hcreated : Undisturbed s (s.created { SignalCall.outgoingCall contact signalingId with
          hasLocalVideo }) := .of_same rfl rfl rfl
      exact hundisturbed (hcreated.trans (.of_rest rest_setState))
  | dialed contact signalingId hasLocalVideo hcall =>
      have hqueue := mainQueue_of_rest (@rest_saveCallRecord (s.opened
        { SignalCall.outgoingCall contact signalingId with hasLocalVideo }) s.callCount
          .outgoingIncomplete)
      exact h.opened hcoherent honward callData_saveCallRecord hqueue promises_wait_self
  | busy hcall =>
      exact hundisturbed ((Undisturbed.of_rest rest_setState).trans undisturbed_terminateCall)
  | connected hdata hclient hid => exact h.handleConnectedCall hcoherent hdata hclient
  | answered hdata hclient hevent =>
      have hsaved : ∀ call callType, (s.saveCallRecord call callType).Awaited := fun _ _ =>
        h.undisturbed hcoherent callRule_onward.saveCallRecord (.of_rest rest_saveCallRecord)
      exact (hsaved _ _).handleConnectedCall (hcoherent.minor minor_saveCallRecord)
        (callData_saveCallRecord.trans hdata) hclient
  | declined hlt hevent => exact hundisturbed undisturbed_handleDeclineCall
  | hungUpHere hcall => exact hundisturbed undisturbed_handleLocalHungupCall
  | muted call isMuted => exact hundisturbed undisturbed_setAudioOption
  | held call isOnHold => exact hundisturbed undisturbed_setAudioOption
  | terminated => exact hundisturbed undisturbed_terminateCall
  | settled hpromise hsettle => exact h.settle hsettle hkeeps
  | @fulfilled call promise s' hhead hfulfilled =>
      by_cases hcall : s.call = some call
      · refine hraced.fulfilled_current (hcoherent.pop hhead) hcall hfulfilled ?_
        rintro rfl
        exact h.raced.fulfilled call (List.mem_of_head? hhead)
      · refine (h.pop hhead ?_).undisturbed (hcoherent.pop hhead) honward'
          (hfulfilled.undisturbed hcall)
        rintro other hcurrent rfl
        exact hcall hcurrent
  | @rejected call error hhead hordinary =>
      by_cases hcall : s.call = some call
      · exact hraced.handleRejected (hcoherent.pop hhead) hcall
      · refine (h.pop hhead ?_).undisturbed (hcoherent.pop hhead) honward'
          hordinary.undisturbed
        rintro other hcurrent rfl
        exact hcall hcurrent
  | blockRun hhead hblock hordinary =>
      exact (h.pop hhead fun call _ => hblock call).undisturbed (hcoherent.pop hhead) honward'
        hordinary.undisturbed

/-! ## Every run -/

theorem callRule_over : CallRule fun _ a b =>
    a.state.isTerminated = true → b.state.isTerminated = true where
  refl _ _ := id
  trans _ _ _ _ h h' := h' ∘ h
  callRecord _ _ _ := id
  error _ _ _ := id
  options _ _ _ _ _ := id
  terminated _ _ _ hstate _ := hstate
  advances _ _ _ hadvances h := by
    rw [hadvances.isTerminated.1] at h
    exact nomatch h

theorem ready_initial : initial.Ready where
  coherent := coherent_initial
  sound _ hlt := absurd hlt (Nat.not_lt_zero _)
  logged :=
    { linked := ⟨fun _ hlt => absurd hlt (Nat.not_lt_zero _), fun _ _ howner => nomatch howner⟩
      ended := fun _ hlt => absurd hlt (Nat.not_lt_zero _)
      ongoing := fun _ hcall => nomatch hcall
      current := fun _ hcall => nomatch hcall }

theorem Ready.step (h : s.Ready) (hstep : Step s event s') (hkeeps : ¬s.Loses event) :
    s'.Ready where
  coherent := h.coherent.step hstep
  sound := (callRule_sound.step h.coherent hstep fun _ _ _ _ _ => sound_connected).all
    (fun _ => sound_of_isNew) h.sound
  logged := (h.outcome hstep hkeeps).logged

theorem ready_of_run (run : LabelledRun Step initial events s)
    (hkeeps : LabelledRun.EveryStep Step initial events fun s event _ => ¬s.Loses event) :
    s.Ready ∧ s.Awaited :=
  (run.restrict hkeeps).invariant (I := fun _ s => s.Ready ∧ s.Awaited)
    ⟨ready_initial, awaited_initial⟩
    fun _ _ _ _ h hstep =>
      ⟨h.1.step hstep.1 hstep.2, h.2.step h.1.coherent hstep.1 hstep.2⟩

theorem filter_eq_singleton {α : Type} {p : α → Bool} {l : List α} {index : ℕ} {a : α}
    (hget : l[index]? = some a) (hp : p a = true)
    (hunique : ∀ other b, l[other]? = some b → p b = true → other = index) :
    l.filter p = [a] := by
  induction l generalizing index with
  | nil => exact nomatch hget
  | cons b l ih =>
      cases index with
      | zero =>
          obtain rfl := Option.some.inj hget
          rw [List.filter_cons_of_pos hp, List.filter_eq_nil_iff.mpr]
          intro c hmem hc
          obtain ⟨other, hother⟩ := List.mem_iff_getElem?.mp hmem
          exact absurd (hunique (other + 1) c hother hc) (Nat.succ_ne_zero other)
      | succ index =>
          have hb : ¬p b = true := fun hb =>
            absurd (hunique 0 b rfl hb) (Nat.succ_ne_zero index).symm
          rw [List.filter_cons_of_neg hb]
          exact ih hget fun other c hother hc => Nat.succ.inj (hunique (other + 1) c hother hc)

theorem Linked.filter_callRecords (h : s.Linked) (hlt : call < s.callCount)
    {callType : RPRecentCallType} (htype : s.typeOf call = some callType) :
    ∃ record, s.callRecords.filter (·.call = call) = [record] ∧ record.callType = callType := by
  obtain ⟨index, hindex, hcallType⟩ := Option.bind_eq_some_iff.mp htype
  obtain ⟨record, hrecord, htypeEq⟩ := Option.map_eq_some_iff.mp hcallType
  have howner := (h.owner call hlt index).mp hindex
  rw [CallService.owner, hrecord, Option.map_some] at howner
  refine ⟨record, filter_eq_singleton hrecord (decide_eq_true (Option.some.inj howner)) ?_, htypeEq⟩
  intro other record' hother hcall
  have howner' : s.owner other = some call := by
    rw [CallService.owner, hother, Option.map_some, of_decide_eq_true hcall]
  have hsame := (h.owner call hlt other).mpr howner'
  exact Option.some.inj (hsame.symm.trans hindex)

theorem RPRecentCallType.of_agrees {callType : RPRecentCallType} {hasConnected : Bool}
    (h : callType.agrees hasConnected = true) :
    if hasConnected then callType = .incoming ∨ callType = .outgoing
    else callType = .incomingMissed ∨ callType = .incomingMissedBecauseOfChangedIdentity ∨
      callType = .incomingDeclined ∨ callType = .outgoingMissed ∨
        callType = .outgoingIncomplete := by
  cases hasConnected <;> cases callType <;> first | exact absurd h Bool.false_ne_true | simp

/-- **Ended calls are terminal and logged once.**  In every run without an event that loses the log,
a current call that is cleared or replaced has ended, no call that has ended is ever under way
again, and every call that is not the current one, or whose promise has settled, has one saved
record, of a type that says whether the call has connected. -/
theorem ended_calls_logged_once (run : LabelledRun Step initial events s)
    (hkeeps : LabelledRun.EveryStep Step initial events fun s event _ => ¬s.Loses event) :
    (LabelledRun.EveryStep Step initial events fun s _ s' =>
      (∀ call, s.call = some call → s'.call ≠ some call →
        (s'.calls call).state.isTerminated = true) ∧
      ∀ call < s.callCount, (s.calls call).state.isTerminated = true →
        (s'.calls call).state.isTerminated = true) ∧
    ∀ call < s.callCount, s.call ≠ some call ∨ ¬s.Unsettled call →
      ∃ record, s.callRecords.filter (·.call = call) = [record] ∧
        if (s.calls call).hasConnected then
          record.callType = .incoming ∨ record.callType = .outgoing
        else record.callType = .incomingMissed ∨
          record.callType = .incomingMissedBecauseOfChangedIdentity ∨
            record.callType = .incomingDeclined ∨ record.callType = .outgoingMissed ∨
              record.callType = .outgoingIncomplete := by
  refine ⟨fun earlier event later before after hevents hrun hstep => ?_, fun call hlt hover => ?_⟩
  · have hready := (ready_of_run hrun fun first label last s₁ s₂ hearlier =>
      hkeeps first label (last ++ event :: later) s₁ s₂ (by simp [hevents, hearlier])).1
    have hkept := hkeeps earlier event later before after hevents hrun hstep
    refine ⟨(hready.outcome hstep hkept).cleared, ?_⟩
    refine (callRule_over.step hready.coherent hstep fun callData hdata _ _ hterminated => ?_).earlier
    rw [hready.logged.current callData.call
      (call_of_some hdata)] at hterminated
    cases hterminated
  · obtain ⟨hready, hawaited⟩ := ready_of_run run hkeeps
    have hrecorded : s.Recorded call := by
      refine (hready.recorded_or_ringing hlt).resolve_right fun hringing => ?_
      by_cases hcall : s.call = some call
      · have hlive : (s.calls call).state.isLive = false := by
          rcases hringing.state with hstate | hstate <;> rw [hstate] <;> rfl
        exact hover.elim (· hcall) (· (hawaited.unsettled call hcall hringing.direction
          ((hready.sound call hlt).never hlive (hready.logged.current call hcall))))
      · obtain ⟨_, htype, -⟩ := hready.logged.ended call hlt hcall
        cases hringing.typeOf.symm.trans htype
    obtain ⟨callType, htype, hagrees⟩ := hrecorded
    obtain ⟨record, hfilter, rfl⟩ := hready.logged.linked.filter_callRecords hlt htype
    exact ⟨record, hfilter, RPRecentCallType.of_agrees hagrees⟩

/-- An incoming call that its caller gives up. -/
def givenUp : List Event :=
  [.receivedOffer "+1" 7 false, .receivedHangup "+1" 7]

/-- It is recorded. -/
theorem given_up_call_logged :
    ∃ record, (givenUp.foldl handle initial).callRecords.filter (·.call = 0) = [record] ∧
      if ((givenUp.foldl handle initial).calls 0).hasConnected then
        record.callType = .incoming ∨ record.callType = .outgoing
      else record.callType = .incomingMissed ∨
        record.callType = .incomingMissedBecauseOfChangedIdentity ∨
          record.callType = .incomingDeclined ∨ record.callType = .outgoingMissed ∨
            record.callType = .outgoingIncomplete := by
  have run : LabelledRun Step initial givenUp (givenUp.foldl handle initial) :=
    run_of_enabled _ (by decide)
  have hkeeps : LabelledRun.EveryStep Step initial givenUp fun s event _ => ¬s.Loses event :=
    everyStep_of_along _ ⟨fun ⟨_, hcall, _⟩ => (nomatch hcall), id, trivial⟩
  exact (ended_calls_logged_once run hkeeps).2 0 (by decide) (.inl (by decide))

/-- An incoming call rings, the user hangs up, and what was under way for it comes to an end. -/
def hungUpRinging : List Event :=
  [.receivedOffer "+1" 7 false, .promiseSettled 0 .iceServers .fulfilled,
    .blockRun (.fulfilled 0 .iceServers), .clientEvent 0 .iceConnected, .localHangup 0,
    .promiseSettled 0 .sessionDescription .fulfilled,
    .blockRun (.fulfilled 0 .sessionDescription), .blockRun (.rejected 0 .obsoleteCall),
    .blockRun (.setUpEnded 0)]

/-- **It has no record.** -/
theorem hung_up_call_not_logged :
    ¬∀ (events : List Event) (s : CallService), LabelledRun Step initial events s →
      ∀ call < s.callCount, ¬s.Unsettled call →
        ∃ record, s.callRecords.filter (·.call = call) = [record] := by
  intro logged
  have run : LabelledRun Step initial hungUpRinging (hungUpRinging.foldl handle initial) :=
    run_of_enabled _ (by decide)
  obtain ⟨record, hrecord⟩ := logged _ _ run 0 (by decide) (by
    rintro (hpromise | ⟨block, hmem, -⟩)
    · exact hpromise (by decide)
    · exact nomatch hmem)
  have hnone : (hungUpRinging.foldl handle initial).callRecords = [] := by decide
  rw [hnone] at hrecord
  exact nomatch hrecord

end CallService

end ObjcSwiftLearning.Signal
