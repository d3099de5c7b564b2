import ObjcSwiftLearning.Signal.CallEffects

/-!
# The current call and what waits for it

What is under way for the current call and what is left of earlier ones share the clients, the
promises and the main queue.

* `CallService.Coherent` — every client but that of the current call is terminated; a call gets one
  client at most; and once it has one, no ICE update of an earlier call is in the queue.
* `CallService.Minor` — what most handlers do: the current call and its client stay, and blocks are
  appended to the queue.
* `CallService.Coherent.step` — every step keeps it.
-/

namespace ObjcSwiftLearning.Signal

namespace CallService

variable {s s' s'' : CallService} {call client : ℕ} {block : CallBlock} {blocks : List CallBlock}
  {error : CallError} {events : List Event} {callData : SignalCallData} {promise : CallPromise}
  {contact : String} {callId : UInt64}

/-! ## The invariant -/

/-- How many set-ups of a call there are: its ICE servers are waited for or have come, or it has a
client. -/
def setUps (s : CallService) (call : ℕ) : ℕ :=
  (if s.promises call = some .iceServers then 1 else 0) +
    s.mainQueue.count (.fulfilled call .iceServers) +
    (if s.peerConnectionClient.isSome then 1 else 0)

/-- Whether a block is no ICE update of another call. -/
def CallBlock.OfCall (call : ℕ) (block : CallBlock) : Prop :=
  ∀ update, block = .remoteIceUpdate update → update.call = call

/-- What is under way agrees with the current call. -/
structure Coherent (s : CallService) : Prop where
  known : s.Known
  current : ∀ call, s.call = some call → call < s.callCount
  terminated : ∀ client < s.clientCount, (s.clients client).isTerminated = false →
    s.peerConnectionClient = some client
  setUps : ∀ call, s.call = some call → s.setUps call ≤ 1
  /-- The current call has a client, and no ICE update of an earlier one is left. -/
  arrived : ∀ call, s.call = some call → s.peerConnectionClient.isSome →
    ∀ block ∈ s.mainQueue, CallBlock.OfCall call block
  /-- Nor is one left behind the block that makes the client. -/
  ordered : ∀ call, s.call = some call → s.mainQueue.Pairwise fun block later =>
    block = .fulfilled call .iceServers → CallBlock.OfCall call later

theorem coherent_initial : initial.Coherent where
  known := ⟨by simp [initial], by simp [initial], by simp [initial], by simp [initial],
    by simp [initial], by simp [initial]⟩
  current := by simp [initial, CallService.call]
  terminated := by simp [initial]
  setUps := by simp [initial, CallService.call]
  arrived := by simp [initial, CallService.call]
  ordered := by simp [initial, CallService.call]

/-! ## Minor changes -/

/-- The blocks that a handler may append while a call is current. -/
def MayDispatch (s : CallService) (block : CallBlock) : Prop :=
  (∀ call, block ≠ .fulfilled call .iceServers) ∧
    ∀ update, block = .remoteIceUpdate update → s.call = some update.call

/-- The current call and its client are what they were. -/
structure Minor (s s' : CallService) : Prop where
  known : s.Known → s'.Known
  callCount : s'.callCount = s.callCount
  clientCount : s'.clientCount = s.clientCount
  call : s'.call = s.call
  client : s'.peerConnectionClient = s.peerConnectionClient
  isTerminated : ∀ client, (s'.clients client).isTerminated = (s.clients client).isTerminated
  promises : ∀ call, s'.promises call = some .iceServers → s.promises call = some .iceServers
  mainQueue : ∃ blocks, s'.mainQueue = s.mainQueue ++ blocks ∧
    ∀ block ∈ blocks, s.MayDispatch block

theorem Minor.refl : Minor s s where
  known := id
  callCount := rfl
  clientCount := rfl
  call := rfl
  client := rfl
  isTerminated _ := rfl
  promises _ := id
  mainQueue := ⟨[], (List.append_nil _).symm, by simp⟩

/-- What touches calls, records and tracks only. -/
theorem Minor.of_rest (hrest : s'.rest = s.rest)
    (hterminated : ∀ client, (s'.clients client).isTerminated = (s.clients client).isTerminated) :
    Minor s s' where
  known := Known.of_rest hrest
  callCount := callCount_of_rest hrest
  clientCount := clientCount_of_rest hrest
  call := call_of_callData (callData_of_rest hrest)
  client := peerConnectionClient_of_callData (callData_of_rest hrest)
  isTerminated := hterminated
  promises call hpromise := by
    rwa [promises_of_rest hrest] at hpromise
  mainQueue := ⟨[], by rw [mainQueue_of_rest hrest, List.append_nil], by simp⟩

theorem Quiet.minor (h : Quiet s s') : Minor s s' where
  known := h.known
  callCount := h.callCount
  clientCount := h.clientCount
  call := h.call_eq
  client := h.client_eq
  isTerminated client := congrArg Prod.fst (h.tracks client)
  promises call hpromise := by
    rwa [h.promises] at hpromise
  mainQueue := by
    obtain ⟨blocks, hqueue, hblocks⟩ := h.mainQueue
    exact ⟨blocks, hqueue, fun block hblock =>
      ⟨fun call => (hblocks block hblock).1 call .iceServers, (hblocks block hblock).2⟩⟩

theorem minor_wait {promise : Option CallPromise} (hcall : call < s.callCount)
    (hpromise : promise ≠ some .iceServers) : Minor s (s.wait call promise) := by
  refine { Minor.refl with
    known := fun h => h.wait promise hcall
    promises := fun other hother => ?_ }
  by_cases heq : other = call
  · subst heq
    exact absurd (promises_wait_self.symm.trans hother) hpromise
  · rwa [promises_wait_of_ne heq] at hother

theorem Coherent.minor (h : s.Coherent) (hminor : Minor s s') : s'.Coherent := by
  obtain ⟨blocks, hqueue, hblocks⟩ := hminor.mainQueue
  have hcount : ∀ call, blocks.count (.fulfilled call .iceServers) = 0 := fun call =>
    List.count_eq_zero.mpr fun hmem => (hblocks _ hmem).1 call rfl
  have hnew : ∀ call, s.call = some call → ∀ block ∈ blocks, CallBlock.OfCall call block :=
    fun call hcall block hblock update hupdate =>
      Option.some.inj (((hblocks block hblock).2 update hupdate).symm.trans hcall)
  refine ⟨hminor.known h.known, fun call hcall => ?_, fun client hclient hterminated => ?_,
    fun call hcall => ?_, fun call hcall hsome => ?_, fun call hcall => ?_⟩
  · rw [hminor.callCount]
    exact h.current call (hminor.call ▸ hcall)
  · rw [hminor.client]
    rw [hminor.clientCount] at hclient
    rw [hminor.isTerminated] at hterminated
    exact h.terminated client hclient hterminated
  · have hsetUps := h.setUps call (hminor.call ▸ hcall)
    rw [CallService.setUps] at hsetUps ⊢
    rw [hminor.client, hqueue, List.count_append, hcount call]
    have hpromise := hminor.promises call
    by_cases hs' : s'.promises call = some .iceServers
    · rw [if_pos (hpromise hs')] at hsetUps
      rw [if_pos hs']
      exact hsetUps
    · rw [if_neg hs']
      omega
  · rw [hminor.call] at hcall
    rw [hminor.client] at hsome
    intro block hblock
    rw [hqueue] at hblock
    rcases List.mem_append.mp hblock with hold | hadded
    · exact h.arrived call hcall hsome block hold
    · exact hnew call hcall block hadded
  · rw [hminor.call] at hcall
    rw [hqueue]
    refine List.pairwise_append.mpr ⟨h.ordered call hcall, ?_, fun _ _ later hlater _ => ?_⟩
    · refine List.pairwise_of_forall_mem_list ?_
      exact fun _ _ later hlater _ => hnew call hcall later hlater
    · exact hnew call hcall later hlater

/-! ## Major changes -/

theorem Known.terminateCall (h : s.Known) (hcurrent : ∀ call, s.call = some call →
    call < s.callCount) : s.terminateCall.Known := by
  rw [CallService.terminateCall]
  cases hdata : s.callData with
  | none => exact h
  | some callData =>
      have hlt := hcurrent callData.call (call_of_some hdata)
      have hended : { s with
          callData := none
          waitingForClient := s.waitingForClient.filter (·.call ≠ callData.call)
          waitingForReadiness :=
            s.waitingForReadiness.filter (· ≠ callData.call) : CallService }.Known :=
        { h with
          waitingForClient := fun update hupdate =>
            h.waitingForClient update (List.mem_of_mem_filter hupdate)
          waitingForReadiness := fun call hcall =>
            h.waitingForReadiness call (List.mem_of_mem_filter hcall) }
      have hrejected := @Known.dispatch _ (.rejected callData.call .obsoleteCall)
        (hended.wait none hlt) hlt
      dsimp only
      split <;> split
      · exact hrejected
      · exact hended
      · exact Known.of_rest rest_modifyClient hrejected
      · exact Known.of_rest rest_modifyClient hended

@[simp] theorem clientCount_terminateCall : s.terminateCall.clientCount = s.clientCount := by
  rw [terminateCall]
  split
  · rfl
  · split <;> split <;> rfl

theorem clients_terminateCall : s.terminateCall.clients = match s.peerConnectionClient with
    | none => s.clients
    | some client => Function.update s.clients client
        { s.clients client with isTerminated := true } := by
  rw [terminateCall, peerConnectionClient]
  cases s.callData with
  | none => rfl
  | some callData =>
      cases hclient : callData.peerConnectionClient with
      | none => simp only [Option.bind_some, hclient]; split <;> rfl
      | some client => simp only [Option.bind_some, hclient]; split <;> rfl

/-- **When a call is terminated, so is its client.** -/
theorem Coherent.terminateCall (h : s.Coherent) : s.terminateCall.Coherent := by
  have hnone : s.terminateCall.call = none := by
    rw [CallService.call, callData_terminateCall, Option.map_none]
  have hno : ∀ call, s.terminateCall.call ≠ some call := by simp [hnone]
  refine ⟨h.known.terminateCall h.current, fun call hcall => absurd hcall (hno call),
    fun client hclient hterminated => ?_, fun call hcall => absurd hcall (hno call),
    fun call hcall => absurd hcall (hno call), fun call hcall => absurd hcall (hno call)⟩
  rw [clientCount_terminateCall] at hclient
  rw [clients_terminateCall] at hterminated
  cases hcurrent : s.peerConnectionClient with
  | none =>
      rw [hcurrent] at hterminated
      have hsome := h.terminated client hclient hterminated
      rw [hcurrent] at hsome
      cases hsome
  | some current =>
      rw [hcurrent] at hterminated
      dsimp only at hterminated
      by_cases heq : client = current
      · subst heq
        rw [Function.update_self] at hterminated
        cases hterminated
      · rw [Function.update_of_ne heq] at hterminated
        have hsome := h.terminated client hclient hterminated
        exact absurd (Option.some.inj (hsome.symm.trans hcurrent)) heq

theorem setUps_pop (hhead : s.mainQueue.head? = some block) :
    s.popped.setUps call +
      (if block = .fulfilled call .iceServers then 1 else 0) = s.setUps call := by
  obtain ⟨later, hqueue⟩ := List.head?_eq_some_iff.mp hhead
  have hcount : s.mainQueue.count (.fulfilled call .iceServers) =
      s.mainQueue.tail.count (.fulfilled call .iceServers) +
        (if block = .fulfilled call .iceServers then 1 else 0) := by
    rw [hqueue, List.count_cons, List.tail_cons]
    simp only [beq_iff_eq]
  rw [setUps, setUps, hcount]
  change (if s.promises call = some .iceServers then 1 else 0) + s.mainQueue.tail.count _ +
    (if s.peerConnectionClient.isSome then 1 else 0) + _ = _
  omega

/-- The head of the queue is taken. -/
theorem Coherent.pop (h : s.Coherent) (hhead : s.mainQueue.head? = some block) :
    s.popped.Coherent :=
  { h with
    known := { h.known with
      mainQueue := fun block hblock => h.known.mainQueue block (List.mem_of_mem_tail hblock) }
    setUps := fun call hcall =>
      Nat.le_trans (Nat.le_of_add_right_le (Nat.le_of_eq (setUps_pop hhead))) (h.setUps call hcall)
    arrived := fun call hcall hsome block hblock =>
      h.arrived call hcall hsome block (List.mem_of_mem_tail hblock)
    ordered := fun call hcall => (h.ordered call hcall).tail }

theorem Known.created (a : SignalCall) (h : s.Known) : (s.created a).Known where
  promises call hcall := Nat.lt_succ_of_lt (h.promises call hcall)
  mainQueue block hblock := Nat.lt_succ_of_lt (h.mainQueue block hblock)
  waitingForClient update hupdate := Nat.lt_succ_of_lt (h.waitingForClient update hupdate)
  waitingForReadiness call hcall := Nat.lt_succ_of_lt (h.waitingForReadiness call hcall)
  remoteDescriptions call hcall := Nat.lt_succ_of_lt (h.remoteDescriptions call hcall)
  backgroundTasks call hcall := Nat.lt_succ_of_lt (h.backgroundTasks call hcall)

theorem Coherent.created (a : SignalCall) (h : s.Coherent) : (s.created a).Coherent :=
  { h with
    known := h.known.created a
    current := fun call hcall => Nat.lt_succ_of_lt (h.current call hcall) }

theorem Coherent.opened {tasks : List ℕ} (a : SignalCall) (h : s.Coherent) (hnone : s.call = none)
    (htasks : ∀ call ∈ tasks, call ∈ s.backgroundTasks ∨ call = s.callCount) :
    ({ s.opened a with backgroundTasks := tasks }.wait s.callCount (some .iceServers)).Coherent := by
  have hnew : ∀ call, CallBlock.fulfilled call .iceServers ∈ s.mainQueue → call < s.callCount :=
    fun call hblock => h.known.mainQueue _ hblock
  have hcurrent : ∀ call, some s.callCount = some call → call = s.callCount :=
    fun call hcall => (Option.some.inj hcall).symm
  have hclient : s.peerConnectionClient = none := by
    rw [CallService.peerConnectionClient, callData_of_call_none hnone, Option.bind_none]
  have hknown : { s.created a with backgroundTasks := tasks }.Known := by
    refine { h.known.created a with backgroundTasks := fun call hcall => ?_ }
    rcases htasks call hcall with hold | rfl
    · exact Nat.lt_succ_of_lt (h.known.backgroundTasks call hold)
    · exact Nat.lt_succ_self _
  refine ⟨?_, fun call hcall => ?_, fun client hlt hterminated => ?_, fun call hcall => ?_,
    fun call hcall hsome => ?_, fun call hcall => ?_⟩
  · exact { hknown.wait (some .iceServers) (Nat.lt_succ_self s.callCount) with }
  · exact Nat.lt_succ_of_le (Nat.le_of_eq (hcurrent call hcall))
  · have hsome := h.terminated client hlt hterminated
    rw [hclient] at hsome
    cases hsome
  · obtain rfl := hcurrent call hcall
    -- A block that is queued is of an older call, so the new one waits for its servers once.
    have hcount : s.mainQueue.count (.fulfilled s.callCount .iceServers) = 0 :=
      List.count_eq_zero.mpr fun hblock => Nat.lt_irrefl _ (hnew _ hblock)
    rw [CallService.setUps, promises_wait_self]
    change 1 + s.mainQueue.count _ + 0 ≤ 1
    omega
  · cases hsome
  · obtain rfl := hcurrent call hcall
    refine List.pairwise_of_forall_mem_list fun block hblock later hlater heq => ?_
    exact absurd (hnew _ (heq ▸ hblock)) (Nat.lt_irrefl _)

/-- The current call gets its client. -/
theorem Coherent.setPeerConnectionClient (h : s.Coherent) (hdata : s.callData = some callData)
    (hsetUps : s.setUps callData.call = 0)
    (harrived : ∀ block ∈ s.mainQueue, CallBlock.OfCall callData.call block) :
    (s.setPeerConnectionClient callData).Coherent := by
  have hcall := call_of_some hdata
  have hcurrent : ∀ call, some callData.call = some call → call = callData.call :=
    fun call hcall => (Option.some.inj hcall).symm
  have hlt := h.current _ hcall
  rw [CallService.setUps] at hsetUps
  have hclient : s.peerConnectionClient = none := by
    cases hsome : s.peerConnectionClient with
    | none => rfl
    | some client => simp [hsome] at hsetUps
  -- What is queued with the client are the updates that have waited for it.
  have hupdates : ∀ block ∈ (s.waitingForClient.filter
      (·.call = callData.call)).map CallBlock.remoteIceUpdate,
      ∃ update : RemoteIceUpdate, block = .remoteIceUpdate update ∧
        update.call = callData.call := by
    intro block hblock
    obtain ⟨update, hupdate, rfl⟩ := List.mem_map.mp hblock
    exact ⟨update, rfl, of_decide_eq_true (List.mem_filter.mp hupdate).2⟩
  have harrived' : ∀ block ∈ (s.setPeerConnectionClient callData).mainQueue,
      CallBlock.OfCall callData.call block := by
    intro block hblock update hupdate
    rcases List.mem_append.mp hblock with hold | hnew
    · exact harrived block hold update hupdate
    · obtain ⟨update', rfl, hcall'⟩ := hupdates block hnew
      rw [CallBlock.remoteIceUpdate.injEq] at hupdate
      exact hupdate ▸ hcall'
  refine ⟨{ h.known with
      mainQueue := h.known.append fun block hblock => ?_
      waitingForClient := fun update hupdate =>
        h.known.waitingForClient update (List.mem_of_mem_filter hupdate) },
    fun call hcall => hcurrent call hcall ▸ hlt, fun client hlt hterminated => ?_,
    fun call hcall => ?_, fun call hcall _ => hcurrent call hcall ▸ harrived',
    fun call hcall => ?_⟩
  · obtain ⟨update, rfl, hupdate⟩ := hupdates block hblock
    change update.call < s.callCount
    rwa [hupdate]
  -- There was no client, so only the new one is not terminated.
  · by_cases heq : client = s.clientCount
    · exact congrArg some heq.symm
    · have hclients : (s.setPeerConnectionClient callData).clients client = s.clients client :=
        Function.update_of_ne heq _ _
      rw [hclients] at hterminated
      have hsome := h.terminated client (by
        change client < s.clientCount + 1 at hlt
        omega) hterminated
      rw [hclient] at hsome
      cases hsome
  · obtain rfl := hcurrent call hcall
    have hnone : ((s.waitingForClient.filter
        (·.call = callData.call)).map CallBlock.remoteIceUpdate).count
          (.fulfilled callData.call .iceServers) = 0 :=
      List.count_eq_zero.mpr fun hblock => by
        obtain ⟨update, hupdate, -⟩ := hupdates _ hblock
        cases hupdate
    rw [CallService.setUps]
    change (if s.promises callData.call = some .iceServers then 1 else 0) +
      (s.mainQueue ++ _).count _ + 1 ≤ 1
    rw [List.count_append, hnone]
    omega
  · obtain rfl := hcurrent call hcall
    exact List.pairwise_of_forall_mem_list fun _ _ later hlater _ => harrived' later hlater

/-! ## The handlers -/

theorem minor_setState {state : CallState} : Minor s (s.setState call state) :=
  .of_rest rest_setState fun _ => isTerminated_setState

theorem minor_failed : Minor s (s.failed call error) :=
  .of_rest rest_failed fun _ => isTerminated_failed

theorem minor_modifyCall {f : SignalCall → SignalCall} : Minor s (s.modifyCall call f) :=
  .of_rest rfl fun _ => rfl

theorem minor_ensureAudioState : Minor s (s.ensureAudioState call client) :=
  .of_rest rest_ensureAudioState fun _ => isTerminated_ensureAudioState

theorem minor_setLocalVideoEnabled {enabled : Bool} :
    Minor s (s.setLocalVideoEnabled client enabled) :=
  .of_rest rest_setLocalVideoEnabled fun _ => isTerminated_setLocalVideoEnabled

theorem minor_updateIsVideoEnabled : Minor s s.updateIsVideoEnabled :=
  .of_rest rest_updateIsVideoEnabled fun _ => isTerminated_updateIsVideoEnabled

theorem minor_saveCallRecord {callType : RPRecentCallType} :
    Minor s (s.saveCallRecord call callType) :=
  .of_rest rest_saveCallRecord fun _ => by rw [clients_saveCallRecord]

theorem minor_handleMissedCall : Minor s (s.handleMissedCall call) :=
  .of_rest rest_handleMissedCall fun _ => by rw [clients_handleMissedCall]

theorem minor_updateHungUpCallRecord : Minor s (s.updateHungUpCallRecord call) :=
  .of_rest rest_updateHungUpCallRecord fun _ => by rw [clients_updateHungUpCallRecord]

theorem Coherent.handleFailedCall (h : s.Coherent) :
    (s.handleFailedCall (some call) error).Coherent := by
  rw [handleFailedCall_some]
  split
  · exact (h.minor minor_failed).terminateCall
  · exact h.minor minor_failed

theorem Coherent.missed (h : s.Coherent) : (s.missed contact callId).Coherent :=
  (h.created _).minor minor_handleMissedCall

theorem Coherent.dispatch (h : s.Coherent) (hblock : block.call < s.callCount)
    (hmay : s.MayDispatch block) : (s.dispatch block).Coherent :=
  h.minor { Minor.refl with
    known := fun h => h.dispatch hblock
    mainQueue := ⟨[block], rfl, List.forall_mem_singleton.mpr hmay⟩ }

theorem mayDispatch_rejected : s.MayDispatch (.rejected call error) := by
  simp [MayDispatch]

theorem mayDispatch_setUpEnded : s.MayDispatch (.setUpEnded call) := by
  simp [MayDispatch]

/-- Of the handlers of promises, all but that of the ICE servers. -/
theorem mayDispatch_fulfilled (hpromise : promise ≠ .iceServers) :
    s.MayDispatch (.fulfilled call promise) := by
  simp [MayDispatch, hpromise]

section

variable (h : s.Coherent)
include h

theorem Coherent.ordinary (hordinary : Ordinary s s') : s'.Coherent := by
  cases hordinary with
  | quiet hquiet => exact h.minor hquiet.minor
  | failed before hlt after => exact (h.minor before.minor).handleFailedCall.minor after.minor
  | advanced hcall hadvances => exact h.minor minor_setState
  | @hungUp call hcall =>
      refine ((h.minor (.of_rest rest_handleMissedIfHungUp fun _ => ?_)).minor
        minor_setState).terminateCall
      rw [clients_handleMissedIfHungUp]
  | video hasLocalVideo hcall => exact (h.minor minor_modifyCall).minor minor_updateIsVideoEnabled

/-- The client of a call is made when none of its blocks is left to make another. -/
theorem Coherent.fulfilled (hfulfilled : Fulfilled s call promise s') (hlt : call < s.callCount)
    (hfirst : promise = .iceServers → s.call = some call →
      s.setUps call = 0 ∧ ∀ block ∈ s.mainQueue, CallBlock.OfCall call block) : s'.Coherent := by
  cases hfulfilled with
  | rejected error => exact h.dispatch hlt mayDispatch_rejected
  | client hpromise hdata hcall =>
      subst hcall
      obtain ⟨hsetUps, harrived⟩ := hfirst hpromise (call_of_some hdata)
      exact (h.setPeerConnectionClient hdata hsetUps harrived).minor (minor_wait hlt nofun)
  | waits hnext before =>
      refine (h.minor before.minor).minor (minor_wait ?_ fun heq => hnext (Option.some.inj heq))
      rwa [before.callCount]
  | raced before hdata hcall hconnected =>
      refine (h.minor before.minor).dispatch ?_ (mayDispatch_fulfilled nofun)
      rwa [before.callCount]
  | connected hpromise hquiet => exact h.minor hquiet.minor

theorem Coherent.fulfillCallConnected (hdata : s.callData = some callData) :
    (s.fulfillCallConnected callData).Coherent := by
  have hcall := call_of_some hdata
  have hclient := peerConnectionClient_of_some hdata
  have hconnected : { s with
      callData := some { callData with isCallConnected := true } }.Coherent :=
    h.minor { @Minor.refl s with
      known := fun hknown => { hknown with }
      call := hcall.symm
      client := hclient.symm }
  have hlt := h.current _ hcall
  rw [CallService.fulfillCallConnected]
  split
  · exact @Coherent.dispatch _ (.fulfilled callData.call .callConnected)
      (hconnected.minor (@minor_wait _ callData.call none hlt (by decide))) hlt
      (mayDispatch_fulfilled (by decide))
  · exact hconnected

theorem Coherent.handleConnectedCall (hdata : s.callData = some callData) :
    (s.handleConnectedCall callData).Coherent := by
  rw [CallService.handleConnectedCall]
  split
  · rw [call_of_some hdata]
    exact h.handleFailedCall
  · exact (((h.fulfillCallConnected hdata).minor minor_setState).minor
      minor_ensureAudioState).minor minor_setLocalVideoEnabled

theorem Coherent.handleLocalHungupCall : (s.handleLocalHungupCall call).Coherent := by
  rw [CallService.handleLocalHungupCall]
  split
  · exact h.terminateCall
  · split
    · exact h.handleFailedCall
    · have hhungUp := (h.minor (@minor_setState _ call .localHangup)).minor
        (@minor_updateHungUpCallRecord _ call)
      dsimp only
      split
      · exact hhungUp.terminateCall
      · exact (hhungUp.minor minor_ensureAudioState).terminateCall

theorem Coherent.handleDeclineCall : (s.handleDeclineCall call).Coherent := by
  rw [CallService.handleDeclineCall]
  refine Coherent.handleLocalHungupCall ?_
  split
  · exact h.minor minor_saveCallRecord
  · exact h.minor (.of_rest rfl fun _ => rfl)

theorem Coherent.setAudioOption {f : SignalCall → SignalCall} :
    (s.setAudioOption call f).Coherent := by
  rw [CallService.setAudioOption]
  split
  · exact h
  · split
    · exact h.minor minor_modifyCall
    · exact (h.minor minor_modifyCall).minor minor_ensureAudioState

end

/-- **Only the current client is heard.** -/
theorem Coherent.handle_clientEvent {event : ClientEvent} (h : s.Coherent)
    (hlt : client < s.clientCount) :
    s.handle (.clientEvent client event) = s ∨
      s.peerConnectionClient = some client ∧
        s.handle (.clientEvent client event) = s.handleCurrentClientEvent event := by
  rw [handle]
  cases hterminated : (s.clients client).isTerminated with
  | true => exact .inl (if_pos rfl)
  | false =>
      have hcurrent := h.terminated client hlt hterminated
      refine .inr ⟨hcurrent, ?_⟩
      have hsame : (if event = .iceDisconnected then s.peerConnectionClient else some client) =
          s.peerConnectionClient := by rw [hcurrent, ite_self]
      rw [if_neg Bool.false_ne_true, handleClientEvent]
      exact if_neg fun hne => hne hsame

theorem Coherent.first (h : s.Coherent)
    (hhead : s.mainQueue.head? = some (.fulfilled call .iceServers)) (hcall : s.call = some call) :
    s.popped.setUps call = 0 ∧
      ∀ block ∈ s.mainQueue.tail, CallBlock.OfCall call block := by
  have hsetUps := h.setUps call hcall
  have hordered := h.ordered call hcall
  obtain ⟨later, hqueue⟩ := List.head?_eq_some_iff.mp hhead
  rw [← setUps_pop hhead, if_pos rfl] at hsetUps
  rw [hqueue, List.pairwise_cons] at hordered
  refine ⟨by omega, fun block hblock => hordered.1 block ?_ rfl⟩
  rwa [hqueue, List.tail_cons] at hblock

theorem setUps_fulfill {other : ℕ} (hpromise : s.promises call = some .iceServers) :
    ((s.wait call none).dispatch (.fulfilled call .iceServers)).setUps other = s.setUps other := by
  have hcount : (s.mainQueue ++ [CallBlock.fulfilled call .iceServers]).count
      (.fulfilled other .iceServers) = s.mainQueue.count (.fulfilled other .iceServers) +
        (if other = call then 1 else 0) := by
    rw [List.count_append, List.count_singleton]
    by_cases heq : other = call
    · rw [heq, beq_self_eq_true, if_pos rfl, if_pos rfl]
    · simp [heq, Ne.symm heq]
  rw [setUps, setUps]
  change (if (s.wait call none).promises other = some .iceServers then 1 else 0) +
    (s.mainQueue ++ [CallBlock.fulfilled call .iceServers]).count _ +
      (if s.peerConnectionClient.isSome then 1 else 0) = _
  rw [hcount]
  by_cases heq : other = call
  · subst heq
    rw [promises_wait_self, hpromise, if_neg nofun, if_pos rfl, if_pos rfl]
    omega
  · rw [promises_wait_of_ne heq, if_neg heq, Nat.add_zero]

/-- When its ICE servers come, the current call has no client. -/
theorem Coherent.client_none (h : s.Coherent) (hdata : s.callData = some callData)
    (hhead : s.mainQueue.head? = some (.fulfilled callData.call .iceServers)) :
    callData.peerConnectionClient = none := by
  have hsetUps := h.setUps callData.call (call_of_some hdata)
  have hpositive : 0 < s.mainQueue.count (.fulfilled callData.call .iceServers) :=
    List.count_pos_iff.mpr (List.mem_of_head? hhead)
  rw [CallService.setUps, peerConnectionClient_of_some hdata] at hsetUps
  cases hclient : callData.peerConnectionClient with
  | none => rfl
  | some client =>
      rw [hclient, Option.isSome_some, if_pos rfl] at hsetUps
      omega

/-- What a call waits for comes. -/
theorem Coherent.fulfill (h : s.Coherent) (hpromise : s.promises call = some promise) :
    ((s.wait call none).dispatch (.fulfilled call promise)).Coherent := by
  have hlt := h.known.promises call (by rw [hpromise]; exact nofun)
  by_cases heq : promise = .iceServers
  · subst heq
    have hof : ∀ other, CallBlock.OfCall other (.fulfilled call .iceServers) := fun _ => nofun
    refine ⟨(h.known.wait none hlt).dispatch hlt, h.current, h.terminated, fun other hother => ?_,
      fun other hother hsome block hblock => ?_, fun other hother => ?_⟩
    · rw [setUps_fulfill hpromise]
      exact h.setUps other hother
    · rcases List.mem_append.mp hblock with hold | hnew
      · exact h.arrived other hother hsome block hold
      · exact List.mem_singleton.mp hnew ▸ hof other
    · refine List.pairwise_append.mpr ⟨h.ordered other hother, List.pairwise_singleton _ _,
        fun _ _ later hlater _ => ?_⟩
      exact List.mem_singleton.mp hlater ▸ hof other
  · refine (h.minor (@minor_wait _ call none hlt (by decide))).dispatch hlt ⟨?_, nofun⟩
    rintro other ⟨⟩
    exact heq rfl

theorem Coherent.settle {settlement : Settlement} (h : s.Coherent)
    (hpromise : s.promises call = some promise) : (s.settle call promise settlement).Coherent := by
  have hlt := h.known.promises call (by rw [hpromise]; exact nofun)
  have hwait := h.minor (@minor_wait _ call none hlt (by decide))
  cases settlement with
  | fulfilled => exact h.fulfill hpromise
  | rejected error => exact hwait.dispatch hlt mayDispatch_rejected
  | cancelled =>
      rw [CallService.settle]
      split
      · exact hwait
      · exact hwait.dispatch hlt mayDispatch_setUpEnded

/-- **Every step keeps what is under way coherent.** -/
theorem Coherent.step {event : Event} (h : s.Coherent) (hstep : Step s event s') :
    s'.Coherent := by
  cases effect_of_step h.current h.known hstep with
  | ordinary hevent hordinary => exact h.ordinary hordinary
  | notified hevent => exact h.minor minor_updateIsVideoEnabled
  | applicationStateChanged isInBackground => exact { h with known := { h.known with } }
  | untrusted contact callId => exact ((h.created _).minor minor_saveCallRecord).terminateCall
  | rang contact callId hcall =>
      refine h.opened _ hcall fun call hmem => ?_
      rwa [List.mem_append, List.mem_singleton] at hmem
  | missed contact callId hcall => exact h.missed
  | collided callId hcall hstate => exact (h.missed.minor minor_setState).terminateCall
  | replaced callId hcall hidle hdialing hringing => exact h.missed.terminateCall
  | refused contact signalingId hasLocalVideo hdata => exact (h.created _).minor minor_setState
  | dialed contact signalingId hasLocalVideo hcall =>
      refine (h.opened { SignalCall.outgoingCall contact signalingId with hasLocalVideo } hcall
        fun _ => .inl).minor (.of_rest ?_ fun client => ?_)
      · exact congrArg (fun rest => CallService.wait rest s.callCount (some .iceServers))
          rest_saveCallRecord
      · exact congrArg (fun clients => (clients client).isTerminated) clients_saveCallRecord
  | busy hcall => exact (h.minor minor_setState).terminateCall
  | connected hdata hclient hid => exact h.handleConnectedCall hdata
  | answered hdata hclient hevent =>
      exact (h.minor minor_saveCallRecord).handleConnectedCall (callData_saveCallRecord.trans hdata)
  | declined hlt hevent => exact h.handleDeclineCall
  | hungUpHere hcall => exact h.handleLocalHungupCall
  | muted call isMuted => exact h.setAudioOption
  | held call isOnHold => exact h.setAudioOption
  | terminated => exact h.terminateCall
  | settled hpromise hsettle => exact h.settle hpromise
  | fulfilled hhead hfulfilled =>
      have hlt := h.known.mainQueue _ (List.mem_of_head? hhead)
      exact (h.pop hhead).fulfilled hfulfilled hlt fun hpromise => h.first (hpromise ▸ hhead)
  | rejected hhead hordinary => exact (h.pop hhead).ordinary hordinary
  | blockRun hhead hblock hordinary => exact (h.pop hhead).ordinary hordinary

/-- What is under way is coherent in every run. -/
theorem coherent_of_run (run : LabelledRun Step initial events s) : s.Coherent :=
  run.invariant (I := fun _ s => s.Coherent) coherent_initial fun _ _ _ _ h hstep => h.step hstep

end CallService

end ObjcSwiftLearning.Signal
