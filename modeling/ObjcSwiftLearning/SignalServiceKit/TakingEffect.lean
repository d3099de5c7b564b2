import Mathlib.Data.List.Count
import ObjcSwiftLearning.SignalServiceKit.BlockedSenders
import ObjcSwiftLearning.SignalServiceKit.MessageQueues

/-!
# Does a received envelope take effect once?

A content job is stored with the session that its decryption has changed, and removed only
after it has been handled, so what decrypts is handled.  If the app is killed before the job
is removed, it is handled again.  A message that is delivered is then found among the incoming
messages and ignored; an info message and a transcript are not looked for.

A message, or a transcript, whose timer is not that of its conversation leaves two
interactions: its own, and the info message that the timer was set.

* `ContentDatabase.HandledOnce` — what the jobs that were handled have left.
* `received_envelopes_take_effect` — **what holds of every run**.
* `timer_leaves_second_interaction` — one message that leaves two interactions.
-/

namespace ObjcSwiftLearning.SignalServiceKit

open AxolotlKit Procedure

/-! ## What is handed over -/

namespace OWSMessageDecrypter

variable {P : Primitives} {decrypter : OWSMessageDecrypter} {envelope : SSKProtoEnvelope}
  {envelopeData : NSData} {localRecipientId : Option String}

/-- The envelope handed over is that which was received, or one that was built anew. -/
def KeepsEnvelopeData (decrypter : OWSMessageDecrypter) (envelopeData : NSData)
    (call : BlockCall) : Prop :=
  ∀ result, call = .success result → result.envelopeData = envelopeData ∨
    ∃ rebuilt, decrypter.buildSerializedData rebuilt = some result.envelopeData

theorem keepsEnvelopeData_failure : decrypter.KeepsEnvelopeData envelopeData .failure := by
  intro result h
  cases h

theorem keepsEnvelopeData_verdict {result : OWSMessageDecryptResult}
    (h : result.envelopeData = envelopeData ∨
      ∃ rebuilt, decrypter.buildSerializedData rebuilt = some result.envelopeData) :
    decrypter.KeepsEnvelopeData envelopeData
      (decrypter.verdict envelope localRecipientId result) := by
  intro handedOver hcall
  obtain ⟨-, -, rfl⟩ := verdict_eq_success.mp hcall
  exact h

theorem attempts_failureBlock {allowed : BlockCall → Prop} (h : allowed .failure) :
    Attempts allowed failureBlock := fun _ => .inl ⟨.failure, h, rfl, rfl⟩

/-- **What is handed over has the data of an envelope.** -/
theorem keepsEnvelopeData_decryptEnvelope {world : World} {delivery' : Delivery}
    (h : (decrypter.decryptEnvelope P envelope envelopeData).run ⟨world, []⟩ =
      (.ok (), delivery')) :
    ∃ call, decrypter.KeepsEnvelopeData envelopeData call ∧ delivery'.calls = [call] := by
  have hfailed : ∀ {delivery}, failureBlock.run ⟨world, []⟩ = (.ok (), delivery) →
      ∃ call, decrypter.KeepsEnvelopeData envelopeData call ∧ delivery.calls = [call] := by
    intro delivery hrun
    rw [run_failureBlock, Prod.mk.injEq] at hrun
    obtain ⟨-, rfl⟩ := hrun
    exact ⟨.failure, keepsEnvelopeData_failure, rfl⟩
  have hattempt : ∀ {p : Procedure Failure Delivery Unit},
      (handle (catchIntoFailureBlock envelope) p).run ⟨world, []⟩ = (.ok (), delivery') →
      Attempts (decrypter.KeepsEnvelopeData envelopeData) p →
      ∃ call, decrypter.KeepsEnvelopeData envelopeData call ∧ delivery'.calls = [call] := by
    intro p hrun hp
    obtain ⟨call, hcall | rfl, hcalls⟩ := hp.handle hrun
    · exact ⟨call, hcall, hcalls⟩
    · exact ⟨.failure, keepsEnvelopeData_failure, hcalls⟩
  have hcipher : ∀ {cipherMessageBlock : NSData → Except Failure CipherMessage},
      (decrypter.decryptEnvelopeWithCipher P envelope envelopeData world.stores.localNumber
        cipherMessageBlock).run ⟨world, []⟩ = (.ok (), delivery') →
      ∃ call, decrypter.KeepsEnvelopeData envelopeData call ∧ delivery'.calls = [call] := by
    intro cipherMessageBlock hrun
    unfold decryptEnvelopeWithCipher at hrun
    split at hrun
    · exact hfailed hrun
    · exact hattempt hrun (.bind (.lift _) fun _ => .bind (.lift _) fun _ =>
        .bind (frames_inWorld _) fun _ => attempts_successBlock
          (keepsEnvelopeData_verdict (.inl rfl)))
  -- Each type of envelope is attempted, succeeds as it is, or has failed.
  simp only [decryptEnvelope, run_read_bind, run_ite] at h
  split at h
  · exact hfailed h
  cases htype : envelope.type with
  | ciphertext | prekeyBundle =>
      simp only [htype] at h
      exact hcipher h
  | unidentifiedSender =>
      simp only [htype] at h
      unfold decryptUnidentifiedSender at h
      split at h
      · refine hattempt h ?_
        split
        · exact attempts_failureBlock keepsEnvelopeData_failure
        refine .bind (frames_inWorld _) fun decryptResult => ?_
        split
        · exact attempts_failureBlock keepsEnvelopeData_failure
        -- What has been decrypted is handed over in an envelope that is built anew.
        · next hresult =>
            obtain ⟨found, -, hfound⟩ := Option.bind_eq_some_iff.mp hresult
            obtain ⟨-, -, newEnvelopeData, hbuild, rfl⟩ :=
              unidentifiedSenderResult_eq_some.mp hfound
            exact attempts_successBlock (keepsEnvelopeData_verdict (.inr ⟨_, hbuild⟩))
      · exact hfailed h
  | receipt | keyExchange | unknown =>
      simp only [htype, run_successBlock, Prod.mk.injEq] at h
      obtain ⟨-, rfl⟩ := h
      exact ⟨_, keepsEnvelopeData_verdict (.inl rfl), rfl⟩

end OWSMessageDecrypter

/-! ## What the handled jobs have left -/

namespace ContentDatabase

variable {database database' : ContentDatabase} {parser : ProtoParser}
  {job other : OWSMessageContentJob} {key : MessageKey} {left : List SavedInteraction}

/-- How many interactions a job has left, without those that say that a timer was set. -/
def ownInteractions (database : ContentDatabase) (job : OWSMessageContentJob) : ℕ :=
  database.interactions.countP fun row => row.1 = job ∧ row.2.isTimerUpdate = false

/-- How many info messages that a timer was set a job has left. -/
def timerUpdates (database : ContentDatabase) (job : OWSMessageContentJob) : ℕ :=
  database.interactions.countP fun row => row.1 = job ∧ row.2.isTimerUpdate = true

def incomingMessages (database : ContentDatabase) (key : MessageKey) : ℕ :=
  database.interactions.countP fun row => row.2.isIncoming key

/-- The counts of what one handling leaves. -/
structure LeavesOnce (left : List SavedInteraction) : Prop where
  own_le : left.countP (fun interaction => interaction.isTimerUpdate = false) ≤ 1
  timer_le : left.countP (fun interaction => interaction.isTimerUpdate = true) ≤ 1

theorem AtMostOneTimerUpdate.counts {updates : List SavedInteraction}
    (h : AtMostOneTimerUpdate updates) :
    updates.countP (fun interaction => interaction.isTimerUpdate = false) = 0 ∧
      updates.countP (fun interaction => interaction.isTimerUpdate = true) ≤ 1 ∧
      ∀ key, updates.countP (·.isIncoming key) = 0 := by
  rcases h with rfl | ⟨configuration, thread, rfl⟩
  · simp
  · simp [SavedInteraction.isTimerUpdate, SavedInteraction.isIncoming]

theorem Left.leavesOnce {isDelivered : Bool} (h : Left key isDelivered left) : LeavesOnce left := by
  cases h with
  | nothing => constructor <;> simp
  | incoming _ hupdates | outgoing _ hupdates | info _ hupdates =>
      obtain ⟨hown, htimer, -⟩ := hupdates.counts
      constructor
      · rw [List.countP_cons, hown]
        simp [SavedInteraction.isTimerUpdate]
      · rw [List.countP_cons]
        simpa [SavedInteraction.isTimerUpdate] using htimer
  | timerUpdate _ hupdates =>
      obtain ⟨hown, htimer, -⟩ := hupdates.counts
      exact ⟨by omega, htimer⟩

/-- A message that is delivered leaves nothing, or an incoming message of its key. -/
theorem Left.incoming_of_delivered (h : Left key true left) :
    left = [] ∨ ∀ other, left.countP (·.isIncoming other) = if key = other then 1 else 0 := by
  cases h with
  | nothing => exact .inl rfl
  | incoming _ hupdates =>
      refine .inr fun other => ?_
      rw [List.countP_cons, hupdates.counts.2.2 other]
      simp [SavedInteraction.isIncoming]
  | outgoing hfalse _ | info hfalse _ | timerUpdate hfalse _ => cases hfalse

theorem Left.no_incoming (h : Left key false left) (other : MessageKey) :
    left.countP (·.isIncoming other) = 0 := by
  cases h with
  | nothing => rfl
  | incoming htrue _ => cases htrue
  | outgoing _ hupdates | info _ hupdates =>
      rw [List.countP_cons, hupdates.counts.2.2 other]
      rfl
  | timerUpdate _ hupdates => exact hupdates.counts.2.2 other

theorem LeftByJob.leavesOnce (h : LeftByJob parser database job left) : LeavesOnce left := by
  cases h with
  | nothing => constructor <;> simp
  | delivered _ _ hleft | announced _ hleft => exact hleft.leavesOnce

theorem countP_of_append (p : SavedInteraction → Bool) {left : List SavedInteraction}
    (h : database'.interactions = database.interactions ++ left.map (Prod.mk job)) :
    database'.interactions.countP (fun row => row.1 = other ∧ p row.2 = true) =
      database.interactions.countP (fun row => row.1 = other ∧ p row.2 = true) +
        if job = other then left.countP p else 0 := by
  rw [h, List.countP_append, List.countP_map]
  split
  · next heq => simp [Function.comp_def, heq]
  · next hne => simp [Function.comp_def, hne]

section

variable (h : database'.interactions = database.interactions ++ left.map (Prod.mk job))
include h

theorem ownInteractions_of_append :
    database'.ownInteractions other = database.ownInteractions other +
      if job = other then
        left.countP (fun interaction => interaction.isTimerUpdate = false) else 0 := by
  simpa [ownInteractions] using
    @countP_of_append _ _ job other (fun interaction => interaction.isTimerUpdate = false) _ h

theorem timerUpdates_of_append :
    database'.timerUpdates other = database.timerUpdates other +
      if job = other then
        left.countP (fun interaction => interaction.isTimerUpdate = true) else 0 := by
  simpa [timerUpdates] using
    @countP_of_append _ _ job other (fun interaction => interaction.isTimerUpdate = true) _ h

theorem incomingMessages_of_append :
    database'.incomingMessages key = database.incomingMessages key +
      left.countP (·.isIncoming key) := by
  rw [incomingMessages, incomingMessages, h, List.countP_append, List.countP_map]
  rfl

end

theorem existsMessage_iff :
    database.existsMessage key = true ↔ 0 < database.incomingMessages key := by
  rw [existsMessage, incomingMessages, List.countP_pos_iff, List.any_eq_true]

structure HandledOnce (parser : ProtoParser) (handled : List OWSMessageContentJob)
    (database : ContentDatabase) : Prop where
  own_le : ∀ job, database.ownInteractions job ≤ handled.count job
  timer_le : ∀ job, database.timerUpdates job ≤ handled.count job
  incoming_le : ∀ key, database.incomingMessages key ≤ 1
  /-- A message that is delivered has left nothing, or it is found among the others. -/
  delivered : ∀ job key, parser.messageKey job = some key →
    (database.ownInteractions job = 0 ∧ database.timerUpdates job = 0) ∨
      (database.existsMessage key = true ∧ database.ownInteractions job ≤ 1 ∧
        database.timerUpdates job ≤ 1)

variable {handled : List OWSMessageContentJob}

theorem add_le_count_append {before added : ℕ}
    (hbefore : before ≤ handled.count other) (hadded : added ≤ 1) :
    before + (if job = other then added else 0) ≤ (handled ++ [job]).count other := by
  rw [List.count_append, List.count_singleton]
  by_cases hother : job = other
  · simp only [hother, if_true, beq_self_eq_true]
    exact Nat.add_le_add hbefore hadded
  · simpa [hother] using hbefore

theorem HandledOnce.processJob
    {environment : JobEnvironment} (h : HandledOnce parser handled database) :
    HandledOnce parser (handled ++ [job]) (database.processJob job parser environment) := by
  obtain ⟨left, hleft, heq⟩ := @leaves_processJob database job parser environment
  have honce := hleft.leavesOnce
  constructor
  · intro other
    rw [ownInteractions_of_append heq]
    exact add_le_count_append (h.own_le other) honce.own_le
  · intro other
    rw [timerUpdates_of_append heq]
    exact add_le_count_append (h.timer_le other) honce.timer_le
  · intro key
    have hbefore := h.incoming_le key
    rw [incomingMessages_of_append heq]
    cases hleft with
    | nothing => simpa using hbefore
    | @delivered key' left hkey hnew hleft =>
        rcases hleft.incoming_of_delivered with rfl | hcount
        · simpa using hbefore
        · -- there was none with the key of the job
          rw [hcount key]
          split
          · next hsame =>
              subst hsame
              have hnone : ¬0 < database.incomingMessages key' := by
                rw [← existsMessage_iff, hnew]
                exact Bool.false_ne_true
              omega
          · exact hbefore
    | announced hkey hleft => rwa [hleft.no_incoming key]
  · intro other key hkey
    rw [ownInteractions_of_append heq, timerUpdates_of_append heq]
    have hexists : database.existsMessage key = true →
        (database.processJob job parser environment).existsMessage key = true := by
      rw [existsMessage_iff, existsMessage_iff, incomingMessages_of_append heq]
      omega
    have hbefore := h.delivered other key hkey
    by_cases hother : job = other
    · subst hother
      cases hleft with
      | nothing => simpa using hbefore.imp_right (And.imp_left hexists)
      | announced hnone hleft => simp [hnone] at hkey
      | @delivered key' left hkey' hnew hleft =>
          obtain rfl : key' = key := Option.some.inj (hkey'.symm.trans hkey)
          obtain ⟨hown, htimer⟩ : database.ownInteractions job = 0 ∧
              database.timerUpdates job = 0 := by
            simpa [hnew] using hbefore
          rcases hleft.incoming_of_delivered with rfl | hcount
          · exact .inl (by simp [hown, htimer])
          · refine .inr ⟨?_, ?_, ?_⟩
            · rw [existsMessage_iff, incomingMessages_of_append heq, hcount key']
              simp
            · simpa [hown] using honce.own_le
            · simpa [htimer] using honce.timer_le
    · simpa [hother] using hbefore.imp_right (And.imp_left hexists)

theorem HandledOnce.processJobs {handled jobs : List OWSMessageContentJob}
    {environments : ℕ → JobEnvironment} (h : HandledOnce parser handled database) :
    HandledOnce parser (handled ++ (processJobs parser database environments jobs).1)
      (processJobs parser database environments jobs).2 := by
  induction jobs generalizing database environments handled with
  | nil => simpa [SignalServiceKit.processJobs] using h
  | cons job jobs ih =>
      unfold SignalServiceKit.processJobs
      dsimp only
      split
      · exact h.processJob
      · have hrest := @ih _ _ (fun index => environments (index + 1))
          (@HandledOnce.processJob database parser job handled (environments 0) h)
        rwa [List.append_assoc, List.singleton_append] at hrest

/-- What other parts of the app change is not counted. -/
theorem HandledOnce.congr (h : HandledOnce parser handled database)
    (hinteractions : database'.interactions = database.interactions) :
    HandledOnce parser handled database' := by
  have hown : database'.ownInteractions = database.ownInteractions :=
    funext fun _ => congrArg (List.countP _) hinteractions
  have htimer : database'.timerUpdates = database.timerUpdates :=
    funext fun _ => congrArg (List.countP _) hinteractions
  have hincoming : database'.incomingMessages = database.incomingMessages :=
    funext fun _ => congrArg (List.countP _) hinteractions
  refine ⟨hown ▸ h.own_le, htimer ▸ h.timer_le, hincoming ▸ h.incoming_le, ?_⟩
  simpa only [existsMessage_iff, hown, htimer, hincoming] using h.delivered

end ContentDatabase

/-! ## What holds of every run -/

namespace MessageQueues

variable {P : Primitives} {decrypter : OWSMessageDecrypter} {parser : ProtoParser}
  {queues queues' : MessageQueues} {event : Event} {events : List Event} {world : World}
  {threads : GroupThreads}
  {configurations : TSThreadId → Option OWSDisappearingMessagesConfiguration}
  {job : OWSMessageDecryptJob}

def triedEnvelopes (events : List Event) : List OWSMessageDecryptJob :=
  WorkQueue.workings (events.flatMap Event.ofDecryptQueue)

def handledJobs (events : List Event) : List OWSMessageContentJob :=
  WorkQueue.workings (events.flatMap Event.ofContentQueue)

/-- The content jobs that were handled when the app was killed, and not removed: as often as
that happened. -/
def interruptedJobs (events : List Event) : List OWSMessageContentJob :=
  WorkQueue.interruptions (events.flatMap Event.ofContentQueue)

/-- The envelopes that were tried when the app was killed, and not removed. -/
def interruptedEnvelopes (events : List Event) : List OWSMessageDecryptJob :=
  WorkQueue.interruptions (events.flatMap Event.ofDecryptQueue)

theorem decryptQueue_run
    (run : LabelledRun (Step P decrypter parser) (fresh world threads configurations) events
      queues) :
    WorkQueue.Sound OWSMessageDecryptJob.uniqueId (events.flatMap Event.ofDecryptQueue)
      queues.decryptQueue :=
  WorkQueue.sound (run.map MessageQueues.decryptQueue Event.ofDecryptQueue
    fun _ _ _ step => decryptQueue_step step)

theorem contentQueue_run
    (run : LabelledRun (Step P decrypter parser) (fresh world threads configurations) events
      queues) :
    WorkQueue.Sound OWSMessageContentJob.uniqueId (events.flatMap Event.ofContentQueue)
      queues.contentQueue :=
  WorkQueue.sound (run.map MessageQueues.contentQueue Event.ofContentQueue
    fun _ _ _ step => contentQueue_step step)

/-- A step handles a batch, or no job. -/
theorem interactions_step (step : Step P decrypter parser queues event queues') :
    (∃ environments jobs, event = .processed jobs ∧
        processJobs parser queues.database environments
          (queues.contentQueue.stored.take kIncomingMessageBatchSize) =
            (jobs, queues'.database)) ∨
      (WorkQueue.workings event.ofContentQueue = [] ∧
        queues'.database.interactions = queues.database.interactions) := by
  cases step with
  | processed environments hdraining hidle hnext hprocess =>
      exact .inl ⟨environments, _, rfl, hprocess⟩
  | received job hnew => exact .inr ⟨rfl, by rw [database_handleReceivedEnvelopeData]⟩
  | decrypted contentJob hdraining hidle hnext hdecryption henvelope hplaintext hnew =>
      refine .inr ⟨?_, by rw [database_enqueueEnvelopeData]⟩
      dsimp only [Event.ofContentQueue]
      split
      · rfl
      · rfl
  | drainDecryptQueue | notDecrypted | removedDecryptJob | drainedDecryptQueue
  | drainContentQueue | removedContentJobs | drainedContentQueue | killed
  | changedElsewhere => exact .inr ⟨rfl, rfl⟩

theorem handledOnce_run
    (run : LabelledRun (Step P decrypter parser) (fresh world threads configurations) events
      queues) :
    ContentDatabase.HandledOnce parser (handledJobs events) queues.database := by
  induction run with
  | refl =>
      constructor
      · exact fun _ => Nat.zero_le _
      · exact fun _ => Nat.zero_le _
      · exact fun _ => Nat.zero_le _
      · exact fun _ _ _ => .inl ⟨rfl, rfl⟩
  | @tail events event before after run step ih =>
      have hhandled : handledJobs (events ++ [event]) =
          handledJobs events ++ WorkQueue.workings event.ofContentQueue := by
        rw [handledJobs, List.flatMap_append, List.flatMap_singleton, WorkQueue.workings_append]
        rfl
      rw [hhandled]
      obtain ⟨environments, jobs, rfl, hprocess⟩ | ⟨hnone, hinteractions⟩ :=
        interactions_step step
      · have hjobs := @ContentDatabase.HandledOnce.processJobs _ _ _
          (before.contentQueue.stored.take kIncomingMessageBatchSize) environments ih
        rw [hprocess] at hjobs
        simpa [Event.ofContentQueue, WorkQueue.Event.batch] using hjobs
      · rw [hnone, List.append_nil]
        exact ih.congr hinteractions

theorem accepts_of_added (h : .added job ∈ events.flatMap Event.ofDecryptQueue) :
    acceptsEnvelopeData job.envelopeData = true := by
  obtain ⟨event, -, hadded⟩ := List.mem_flatMap.mp h
  cases event with
  | received received =>
      dsimp only [Event.ofDecryptQueue] at hadded
      split at hadded
      · next haccepts =>
          obtain rfl : job = received := by simpa using hadded
          exact haccepts
      · cases hadded
  | _ => simp [Event.ofDecryptQueue] at hadded

theorem isEnqueued_iff {job : OWSMessageContentJob} :
    job.isEnqueued = true ↔ job.envelopeData ≠ [] := by
  simp [OWSMessageContentJob.isEnqueued, ← List.length_eq_zero_iff]

/-- A serialized envelope is not empty: the type and the timestamp are required. -/
def BuildsNonempty (decrypter : OWSMessageDecrypter) : Prop :=
  ∀ envelope data, decrypter.buildSerializedData envelope = some data → data ≠ []

/-- What a decryption hands over is not dropped. -/
theorem nonempty_of_decryption {world' : World} {result : OWSMessageDecryptResult}
    (hbuild : BuildsNonempty decrypter) (haccepts : acceptsEnvelopeData job.envelopeData = true)
    (h : Decryption P decrypter parser world job world' (some result)) :
    result.envelopeData ≠ [] := by
  cases h with
  | success hparse hrun =>
      obtain ⟨call, hkeeps, hcalls⟩ :=
        OWSMessageDecrypter.keepsEnvelopeData_decryptEnvelope hrun
      obtain rfl := List.singleton_inj.mp hcalls
      rcases hkeeps result rfl with hsame | ⟨rebuilt, hrebuilt⟩
      · rw [hsame]
        intro hnil
        simp [acceptsEnvelopeData, hnil] at haccepts
      · exact hbuild rebuilt _ hrebuilt

/-- **What decrypts is enqueued.** -/
theorem isEnqueued_of_decrypted (hbuild : BuildsNonempty decrypter)
    (run : LabelledRun (Step P decrypter parser) (fresh world threads configurations) events
      queues) {contentJob : OWSMessageContentJob} (h : .decrypted job contentJob ∈ events) :
    contentJob.isEnqueued = true := by
  induction run with
  | refl => cases h
  | tail run step ih =>
      rcases List.mem_append.mp h with hearlier | hlast
      · exact ih hearlier
      · obtain rfl := List.mem_singleton.mp hlast
        cases step with
        | decrypted _ hdraining hidle hnext hdecryption henvelope hplaintext hnew =>
            have hstored := List.mem_of_mem_head? hnext
            have haccepts := accepts_of_added ((decryptQueue_run run).added _ hstored)
            rw [isEnqueued_iff, henvelope]
            exact nonempty_of_decryption hbuild haccepts hdecryption

/-- What there is to be said of a run. -/
structure TakesEffect (parser : ProtoParser) (events : List Event) (queues : MessageQueues) :
    Prop where
  tried : ∀ job, .received job ∈ events → acceptsEnvelopeData job.envelopeData = true →
    job ∈ queues.decryptQueue.stored ∨ job ∈ triedEnvelopes events
  /-- It is tried once, and once more for each time that the app was killed before its job was
  removed. -/
  tried_le : ∀ job,
    (triedEnvelopes events).count job ≤ 1 + (interruptedEnvelopes events).count job
  handled : ∀ job contentJob, .decrypted job contentJob ∈ events →
    contentJob ∈ queues.contentQueue.stored ∨ contentJob ∈ handledJobs events
  /-- It is handled once, and once more for each time that the app was killed before its job
  was removed. -/
  handled_le : ∀ contentJob,
    (handledJobs events).count contentJob ≤ 1 + (interruptedJobs events).count contentJob
  /-- Each time it leaves at most one interaction of its own. -/
  own_le : ∀ contentJob,
    queues.database.ownInteractions contentJob ≤ (handledJobs events).count contentJob
  /-- Each time it leaves at most one info message that a timer was set. -/
  timer_le : ∀ contentJob,
    queues.database.timerUpdates contentJob ≤ (handledJobs events).count contentJob
  /-- A message that is delivered leaves one of each at most, however often it is handled. -/
  delivered : ∀ contentJob key, parser.messageKey contentJob = some key →
    queues.database.ownInteractions contentJob ≤ 1 ∧
      queues.database.timerUpdates contentJob ≤ 1
  /-- No two incoming messages have a timestamp, a source and a device in common. -/
  incoming_le : ∀ key, queues.database.incomingMessages key ≤ 1

/-- **What holds of every run.** -/
theorem received_envelopes_take_effect (P : Primitives) (decrypter : OWSMessageDecrypter)
    (parser : ProtoParser) (world : World) (threads : GroupThreads)
    (configurations : TSThreadId → Option OWSDisappearingMessagesConfiguration)
    (events : List Event) (queues : MessageQueues) (hbuild : BuildsNonempty decrypter)
    (run : LabelledRun (Step P decrypter parser) (fresh world threads configurations) events
      queues) :
    TakesEffect parser events queues := by
  have hdecrypt := decryptQueue_run run
  have hcontent := contentQueue_run run
  have honce := handledOnce_run run
  constructor
  · intro job hreceived haccepts
    refine hdecrypt.kept job (List.mem_flatMap.mpr ⟨_, hreceived, ?_⟩)
    simp [Event.ofDecryptQueue, haccepts]
  · exact hdecrypt.count_workings_le
  · intro job contentJob hdecrypted
    refine hcontent.kept contentJob (List.mem_flatMap.mpr ⟨_, hdecrypted, ?_⟩)
    simp [Event.ofContentQueue, isEnqueued_of_decrypted hbuild run hdecrypted]
  · exact hcontent.count_workings_le
  · exact honce.own_le
  · exact honce.timer_le
  · intro contentJob key hkey
    rcases honce.delivered contentJob key hkey with ⟨hown, htimer⟩ | ⟨-, hown, htimer⟩
    · exact ⟨by omega, by omega⟩
    · exact ⟨hown, htimer⟩
  · exact honce.incoming_le

/-! ## A message that sets the timer -/

def sealedEnvelope (source : Option String) : SSKProtoEnvelope where
  type := .unidentifiedSender
  timestamp := 1
  source := source
  sourceDevice := source.map fun _ => 1
  relay := none
  legacyMessage := none
  content := some [7]
  serverGuid := none
  serverTimestamp := some 1

/-- A message of a contact that has set the timer to a minute. -/
def timedMessage : ContentDataMessage where
  timestamp := none
  flags := 0
  group := none
  attachments := []
  body := some "hello"
  expireTimer := 60
  hasContactShare := false
  groupAvatar := none

/-- `[1]` is the envelope received, `[2]` that which is built. -/
def timedParser : ProtoParser where
  parseEnvelope data :=
    if data = [1] then some (sealedEnvelope none) else some (sealedEnvelope (some "+1"))
  parseContent _ := some ⟨none, some timedMessage⟩
  parseDataMessage _ := none

/-- The cipher finds that the content was sealed by `"+1"`. -/
def timedDecrypter : OWSMessageDecrypter :=
  { OWSMessageDecrypter.sampleDecrypter "+1" with buildSerializedData := fun _ => some [2] }

/-- Nobody is blocked. -/
def timedEnvironment : JobEnvironment where
  manager :=
    { localNumber := "+9"
      isGroupIdBlocked := fun _ => false
      isEnvelopeSenderBlocked := fun _ => false
      isValidE164 := fun _ => true
      hasSupportedAttachments := fun _ => false }
  isRegistered := true
  isAppInBackground := false

def timedDecryptJob : OWSMessageDecryptJob := ⟨"0", 0, [1]⟩

def timedContentJob : OWSMessageContentJob := ⟨"1", 0, [2], some [1, 2, 3]⟩

/-- The message is received, decrypted and handled. -/
def timedEvents : List Event :=
  [.received timedDecryptJob, .drainDecryptQueue, .decrypted timedDecryptJob timedContentJob,
    .drainContentQueue, .processed [timedContentJob]]

/-- The app is killed before it has removed the jobs, and handles the message again. -/
def timedAgain : List Event :=
  [.killed [timedDecryptJob] [timedContentJob], .drainContentQueue, .processed [timedContentJob]]

/-- An app without conversations. -/
def timedStart : MessageQueues := fresh ⟨sampleStores none none, 0, 0⟩ (fun _ => none) fun _ => none

theorem timed_run :
    ∃ queues, LabelledRun (Step additivePrimitives timedDecrypter timedParser) timedStart
        timedEvents queues ∧
      queues.contentQueue.stored = [timedContentJob] ∧
      queues.database.interactions =
        [(timedContentJob, .incomingMessage ⟨1, "+1", 1⟩ (.contact "+1")),
          (timedContentJob, .disappearingConfigurationUpdate ⟨true, 60⟩ (.contact "+1"))] ∧
      ∃ again, LabelledRun (Step additivePrimitives timedDecrypter timedParser) queues timedAgain
          again ∧ again.database.interactions = queues.database.interactions := by
  let received := timedStart.handleReceivedEnvelopeData timedDecryptJob
  let draining : MessageQueues := { received with isDrainingDecryptQueue := true }
  let decrypted : MessageQueues := enqueueEnvelopeData
    { draining with decryptQueue := draining.decryptQueue.work [timedDecryptJob] }
    timedContentJob
  let handling : MessageQueues := { decrypted with isDrainingContentQueue := true }
  let database := (processJobs timedParser handling.database (fun _ => timedEnvironment)
    [timedContentJob]).2
  let handled : MessageQueues :=
    { handling with
      contentQueue := handling.contentQueue.work [timedContentJob]
      database }
  have hdecryption : Decryption additivePrimitives timedDecrypter timedParser draining.world
      timedDecryptJob draining.world (some
        { envelopeData := [2]
          plaintextData := some [1, 2, 3]
          source := some "+1"
          sourceDevice := 1
          isUDMessage := true }) :=
    @Decryption.success _ _ _ _ _ (sealedEnvelope none) _ _ rfl rfl
  have run := @LabelledRun.refl _ _ (Step additivePrimitives timedDecrypter timedParser) timedStart
  have run : LabelledRun (Step additivePrimitives timedDecrypter timedParser) timedStart
      [.received timedDecryptJob] received := run.tail (.received _ (by simp [timedStart, fresh,
        WorkQueue.empty]))
  have run : LabelledRun _ timedStart _ draining := run.tail .drainDecryptQueue
  have run : LabelledRun _ timedStart _ decrypted :=
    run.tail (.decrypted timedContentJob rfl rfl rfl hdecryption rfl rfl (by decide))
  have run : LabelledRun _ timedStart _ handling := run.tail .drainContentQueue
  have run : LabelledRun _ timedStart timedEvents handled :=
    run.tail (.processed (fun _ => timedEnvironment) rfl rfl (by decide) rfl)
  have killed : LabelledRun (Step additivePrimitives timedDecrypter timedParser) handled
      [.killed [timedDecryptJob] [timedContentJob]] handled.relaunch := .single .killed
  have again := (killed.tail .drainContentQueue).tail
    (.processed (fun _ => timedEnvironment) rfl rfl (by decide) rfl)
  exact ⟨handled, run, rfl, rfl, _, again, rfl⟩

theorem buildsNonempty_timedDecrypter : BuildsNonempty timedDecrypter := by
  intro envelope data h
  obtain rfl : [2] = data := Option.some.inj h
  simp

theorem timed_message_takes_effect :
    ∃ queues, TakesEffect timedParser (timedEvents ++ timedAgain) queues ∧
      queues.database.ownInteractions timedContentJob = 1 ∧
        queues.database.timerUpdates timedContentJob = 1 := by
  obtain ⟨_, run, -, hinteractions, queues, again, hagain⟩ := timed_run
  rw [← hagain] at hinteractions
  refine ⟨queues, received_envelopes_take_effect _ _ _ _ _ _ _ _ buildsNonempty_timedDecrypter
    (run.trans again), ?_, ?_⟩
  · rw [ContentDatabase.ownInteractions, hinteractions]
    decide
  · rw [ContentDatabase.timerUpdates, hinteractions]
    decide

/-- **A message that changes the timer leaves two interactions**, handled once. -/
theorem timer_leaves_second_interaction :
    ¬∀ (P : Primitives) (decrypter : OWSMessageDecrypter) (parser : ProtoParser) (world : World)
      (threads : GroupThreads)
      (configurations : TSThreadId → Option OWSDisappearingMessagesConfiguration)
      (events : List Event) (queues : MessageQueues),
      BuildsNonempty decrypter →
      LabelledRun (Step P decrypter parser) (fresh world threads configurations) events queues →
      ∀ job contentJob, .decrypted job contentJob ∈ events →
        (contentJob ∈ queues.contentQueue.stored ∨ contentJob ∈ handledJobs events) ∧
          queues.database.interactions.countP (fun row => row.1 = contentJob) ≤ 1 := by
  intro hclaim
  obtain ⟨queues, run, -, hinteractions, -⟩ := timed_run
  have hone := (hclaim _ _ _ _ _ _ _ _ buildsNonempty_timedDecrypter run timedDecryptJob
    timedContentJob (by simp [timedEvents])).2
  rw [hinteractions] at hone
  revert hone
  decide

end MessageQueues

end ObjcSwiftLearning.SignalServiceKit
