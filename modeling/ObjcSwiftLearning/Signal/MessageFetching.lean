import ObjcSwiftLearning.Signal.MessageFetcher

/-!
# Fetching messages

The app fetches a page, hands each envelope to the receiver and acknowledges it, and fetches again
if there is more.

* `FetchSystem.Step` — the server, any number of fetches, and what the receiver has committed.  A
  request may fail, envelopes arrive, and the app may be killed between two steps.
* `FetchSystem.Accounted` — **nothing is lost**: what is acknowledged was committed before.
* `Mailbox.undisturbedRun` — a fetch with nothing in its way, which is a run of the system.
* `fetching_loses_nothing_and_ends_iff` — when such a fetch ends with everything delivered.
-/

namespace ObjcSwiftLearning.Signal

open AxolotlKit SignalServiceKit MessageFetcherJob

/-! ## The server and the app -/

def Acknowledgement.deletes (messageDict : MessageDict) : Acknowledgement → Bool
  | byServerGuid serverGuid serverTimestamp =>
      messageDict.guid = .value serverGuid ∧ messageDict.serverTimestamp = .value serverTimestamp
  | bySource source timestamp =>
      messageDict.source = .value source ∧ messageDict.timestamp = .value timestamp

/-- An acknowledgement takes effect. -/
def deleteAcknowledged (queue : List MessageDict) (acknowledgement : Acknowledgement) :
    List MessageDict :=
  queue.filter fun messageDict => !acknowledgement.deletes messageDict

/-- What the server returns of its queue, and how the app reads it. -/
def fetchUndeliveredMessages (P : FetchPrimitives) (pageSize : ℕ) (queue : List MessageDict) :
    List SSKProtoEnvelope × Bool :=
  parseMessagesResponse P (queue.take pageSize) (.value (pageSize < queue.length))

/-- Where a `run` is. -/
inductive FetchJob where
  | fetching
  /-- In the loop, about to hand over the first of the envelopes. -/
  | handling (envelopes : List SSKProtoEnvelope) (more : Bool)
  | acknowledging (envelope : SSKProtoEnvelope) (envelopes : List SSKProtoEnvelope) (more : Bool)

/-- The server, the app, and the requests between them. -/
structure FetchSystem where
  /-- What the server has not deleted, oldest first. -/
  queue : List MessageDict
  /-- Everything that was ever in the queue. -/
  arrived : List MessageDict
  /-- The data of the decrypt jobs that were ever committed. -/
  committed : List NSData
  jobs : List FetchJob
  /-- The acknowledgements that are under way. -/
  acknowledgements : List Acknowledgement

inductive FetchEvent where
  | run
  | fetched
  | fetchFailed
  | handedOver
  | acknowledged
  | fetchesMore
  | finished
  | acknowledgementTookEffect
  | acknowledgementFailed
  | arrived (messageDict : MessageDict)
  | killed

namespace FetchSystem

/-- Messages are waiting on the server, and nothing has been fetched. -/
def start (queue : List MessageDict) : FetchSystem where
  queue := queue
  arrived := queue
  committed := []
  jobs := []
  acknowledgements := []

variable (P : FetchPrimitives) (pageSize : ℕ)

inductive Step : FetchSystem → FetchEvent → FetchSystem → Prop
  | run {s : FetchSystem} : Step s .run { s with jobs := s.jobs ++ [.fetching] }
  | fetched {s : FetchSystem} {before after : List FetchJob}
      (hjobs : s.jobs = before ++ .fetching :: after) :
      Step s .fetched { s with
        jobs := before ++ .handling (fetchUndeliveredMessages P pageSize s.queue).1
          (fetchUndeliveredMessages P pageSize s.queue).2 :: after }
  | fetchFailed {s : FetchSystem} {before after : List FetchJob}
      (hjobs : s.jobs = before ++ .fetching :: after) :
      Step s .fetchFailed { s with jobs := before ++ after }
  | handedOver {s : FetchSystem} {before after : List FetchJob} {envelope : SSKProtoEnvelope}
      {envelopes : List SSKProtoEnvelope} {more : Bool}
      (hjobs : s.jobs = before ++ .handling (envelope :: envelopes) more :: after) :
      Step s .handedOver { s with
        committed := s.committed ++ committedData P envelope
        jobs := before ++ .acknowledging envelope envelopes more :: after }
  | acknowledged {s : FetchSystem} {before after : List FetchJob} {envelope : SSKProtoEnvelope}
      {envelopes : List SSKProtoEnvelope} {more : Bool}
      (hjobs : s.jobs = before ++ .acknowledging envelope envelopes more :: after) :
      Step s .acknowledged { s with
        acknowledgements := s.acknowledgements ++ (acknowledgeDelivery envelope).toList
        jobs := before ++ .handling envelopes more :: after }
  | fetchesMore {s : FetchSystem} {before after : List FetchJob}
      (hjobs : s.jobs = before ++ .handling [] true :: after) :
      Step s .fetchesMore { s with jobs := before ++ .fetching :: after }
  | finished {s : FetchSystem} {before after : List FetchJob}
      (hjobs : s.jobs = before ++ .handling [] false :: after) :
      Step s .finished { s with jobs := before ++ after }
  | acknowledgementTookEffect {s : FetchSystem} {before after : List Acknowledgement}
      {acknowledgement : Acknowledgement}
      (hacknowledgements : s.acknowledgements = before ++ acknowledgement :: after) :
      Step s .acknowledgementTookEffect { s with
        acknowledgements := before ++ after
        queue := deleteAcknowledged s.queue acknowledgement }
  | acknowledgementFailed {s : FetchSystem} {before after : List Acknowledgement}
      {acknowledgement : Acknowledgement}
      (hacknowledgements : s.acknowledgements = before ++ acknowledgement :: after) :
      Step s .acknowledgementFailed { s with acknowledgements := before ++ after }
  | arrived {s : FetchSystem} (messageDict : MessageDict) (hserved : IsServed P messageDict)
      (hnew : ∀ earlier ∈ s.arrived, earlier.guid ≠ messageDict.guid) :
      Step s (.arrived messageDict) { s with
        queue := s.queue ++ [messageDict]
        arrived := s.arrived ++ [messageDict] }
  | killed {s : FetchSystem} : Step s .killed { s with jobs := [] }

/-! ## Nothing is lost -/

/-- A decrypt job with the envelope of the item was committed. -/
def HandedOver (committed : List NSData) (messageDict : MessageDict) : Prop :=
  ∃ envelope data, buildEnvelope P messageDict = some envelope ∧
    P.serializedData envelope = some data ∧ data ∈ committed

def IsEnvelopeOf (arrived : List MessageDict) (envelope : SSKProtoEnvelope) : Prop :=
  ∃ messageDict ∈ arrived, buildEnvelope P messageDict = some envelope

/-- The envelopes of a job are those of items, and what it acknowledges was handed over. -/
def JobAccounted (arrived : List MessageDict) (committed : List NSData) : FetchJob → Prop
  | .fetching => True
  | .handling envelopes _ => ∀ envelope ∈ envelopes, IsEnvelopeOf P arrived envelope
  | .acknowledging envelope envelopes _ =>
      (∃ messageDict ∈ arrived, buildEnvelope P messageDict = some envelope ∧
        HandedOver P committed messageDict) ∧
      ∀ envelope ∈ envelopes, IsEnvelopeOf P arrived envelope

/-- What is known of the system at any time. -/
structure Accounted (s : FetchSystem) : Prop where
  served : ∀ messageDict ∈ s.arrived, IsServed P messageDict
  guids : (s.arrived.map (·.guid)).Nodup
  arrived_of_queued : ∀ messageDict ∈ s.queue, messageDict ∈ s.arrived
  kept : ∀ messageDict ∈ s.arrived, messageDict ∈ s.queue ∨ HandedOver P s.committed messageDict
  jobs : ∀ job ∈ s.jobs, JobAccounted P s.arrived s.committed job
  acknowledgements : ∀ acknowledgement ∈ s.acknowledgements, ∃ messageDict ∈ s.arrived,
    HandedOver P s.committed messageDict ∧ ∃ guid serverTimestamp,
      messageDict.guid = .value guid ∧ acknowledgement = .byServerGuid guid serverTimestamp

variable {P pageSize} {s s' : FetchSystem} {arrived arrived' : List MessageDict}
  {committed committed' : List NSData} {messageDict : MessageDict} {queue : List MessageDict}

theorem HandedOver.mono (hcommitted : committed ⊆ committed')
    (h : HandedOver P committed messageDict) : HandedOver P committed' messageDict := by
  obtain ⟨envelope, data, henvelope, hdata, hmem⟩ := h
  exact ⟨envelope, data, henvelope, hdata, hcommitted hmem⟩

theorem IsEnvelopeOf.mono (harrived : arrived ⊆ arrived') {envelope : SSKProtoEnvelope}
    (h : IsEnvelopeOf P arrived envelope) : IsEnvelopeOf P arrived' envelope := by
  obtain ⟨messageDict, hmem, hbuilt⟩ := h
  exact ⟨messageDict, harrived hmem, hbuilt⟩

theorem JobAccounted.mono (harrived : arrived ⊆ arrived') (hcommitted : committed ⊆ committed')
    {job : FetchJob} (h : JobAccounted P arrived committed job) :
    JobAccounted P arrived' committed' job := by
  cases job with
  | fetching => trivial
  | handling envelopes more => exact fun envelope henvelope => (h envelope henvelope).mono harrived
  | acknowledging envelope envelopes more =>
      obtain ⟨⟨messageDict, hmem, hbuilt, hhanded⟩, henvelopes⟩ := h
      exact ⟨⟨messageDict, harrived hmem, hbuilt, hhanded.mono hcommitted⟩,
        fun envelope henvelope => (henvelopes envelope henvelope).mono harrived⟩

/-- A job takes the place of another. -/
theorem forall_replace {α : Type} {p : α → Prop} {before after : List α} {old new : α}
    (h : ∀ a ∈ before ++ old :: after, p a) (hnew : p new) : ∀ a ∈ before ++ new :: after, p a := by
  intro a ha
  rcases List.mem_append.mp ha with hbefore | hafter
  · exact h a (List.mem_append_left _ hbefore)
  · rcases List.mem_cons.mp hafter with rfl | hafter
    · exact hnew
    · exact h a (List.mem_append_right _ (List.mem_cons_of_mem _ hafter))

/-- One is gone. -/
theorem forall_remove {α : Type} {p : α → Prop} {before after : List α} {old : α}
    (h : ∀ a ∈ before ++ old :: after, p a) : ∀ a ∈ before ++ after, p a := by
  intro a ha
  rcases List.mem_append.mp ha with hbefore | hafter
  · exact h a (List.mem_append_left _ hbefore)
  · exact h a (List.mem_append_right _ (List.mem_cons_of_mem _ hafter))

theorem isEnvelopeOf_fetched (hqueue : queue ⊆ arrived) :
    ∀ envelope ∈ (fetchUndeliveredMessages P pageSize queue).1,
      IsEnvelopeOf P arrived envelope := by
  intro envelope henvelope
  obtain ⟨messageDict, hmem, hbuilt⟩ := List.mem_filterMap.mp henvelope
  exact ⟨messageDict, hqueue (List.mem_of_mem_take hmem), hbuilt⟩

theorem handedOver_committedData {envelope : SSKProtoEnvelope} (hserved : IsServed P messageDict)
    (hbuilt : buildEnvelope P messageDict = some envelope)
    (hcommitted : committedData P envelope ⊆ committed) : HandedOver P committed messageDict := by
  obtain ⟨data, hdata, haccepted⟩ := hserved.size envelope hbuilt
  refine ⟨envelope, data, hbuilt, hdata, hcommitted ?_⟩
  simp [committedData, hdata, haccepted]

theorem Accounted.handedOver_of_deletes (h : Accounted P s) {acknowledgement : Acknowledgement}
    (hack : acknowledgement ∈ s.acknowledgements) (hmem : messageDict ∈ s.arrived)
    (hdeletes : acknowledgement.deletes messageDict = true) :
    HandedOver P s.committed messageDict := by
  obtain ⟨acknowledged, harrived, hhanded, guid, serverTimestamp, hguid, rfl⟩ :=
    h.acknowledgements acknowledgement hack
  simp only [Acknowledgement.deletes, decide_eq_true_eq] at hdeletes
  have hsame : messageDict = acknowledged :=
    List.inj_on_of_nodup_map h.guids hmem harrived (hdeletes.1.trans hguid.symm)
  rw [hsame]
  exact hhanded

/-- Where neither server nor receiver changes, only the jobs matter. -/
theorem Accounted.of_jobs (h : Accounted P s) {jobs : List FetchJob}
    (hjobs : ∀ job ∈ jobs, JobAccounted P s.arrived s.committed job) :
    Accounted P { s with jobs := jobs } :=
  ⟨h.served, h.guids, h.arrived_of_queued, h.kept, hjobs, h.acknowledgements⟩

/-- **A step keeps it.** -/
theorem Accounted.step {event : FetchEvent} (h : Accounted P s)
    (hstep : Step P pageSize s event s') : Accounted P s' := by
  cases hstep with
  | run =>
      refine h.of_jobs fun job hjob => ?_
      rcases List.mem_append.mp hjob with hjob | hjob
      · exact h.jobs job hjob
      · obtain rfl := List.mem_singleton.mp hjob
        trivial
  | fetched hjobs =>
      exact h.of_jobs (forall_replace (hjobs ▸ h.jobs) (isEnvelopeOf_fetched h.arrived_of_queued))
  | fetchFailed hjobs => exact h.of_jobs (forall_remove (hjobs ▸ h.jobs))
  | @handedOver before after envelope envelopes more hjobs =>
      have hgrows : s.committed ⊆ s.committed ++ committedData P envelope :=
        List.subset_append_left _ _
      have hjob : JobAccounted P s.arrived s.committed (.handling (envelope :: envelopes) more) :=
        h.jobs _ (by rw [hjobs]; simp)
      obtain ⟨messageDict, hmem, hbuilt⟩ := hjob envelope (List.mem_cons_self ..)
      have hhanded : HandedOver P (s.committed ++ committedData P envelope) messageDict :=
        handedOver_committedData (h.served messageDict hmem) hbuilt (List.subset_append_right _ _)
      -- What has been handed over stays so, since what is committed only grows.
      refine ⟨h.served, h.guids, h.arrived_of_queued, fun messageDict hmem => ?_, ?_, ?_⟩
      · exact (h.kept messageDict hmem).imp_right fun hhanded => hhanded.mono hgrows
      · exact forall_replace
          (fun job hjob => (h.jobs job (hjobs ▸ hjob)).mono (List.Subset.refl _) hgrows)
          ⟨⟨messageDict, hmem, hbuilt, hhanded⟩,
            fun envelope' hmem => hjob envelope' (List.mem_cons_of_mem _ hmem)⟩
      · intro acknowledgement hack
        obtain ⟨messageDict, hmem, hhanded, hguid⟩ := h.acknowledgements acknowledgement hack
        exact ⟨messageDict, hmem, hhanded.mono hgrows, hguid⟩
  | @acknowledged before after envelope envelopes more hjobs =>
      obtain ⟨⟨messageDict, hmem, hbuilt, hhanded⟩, henvelopes⟩ :
          JobAccounted P s.arrived s.committed (.acknowledging envelope envelopes more) :=
        h.jobs _ (by rw [hjobs]; simp)
      refine ⟨h.served, h.guids, h.arrived_of_queued, h.kept,
        forall_replace (hjobs ▸ h.jobs) henvelopes, fun acknowledgement hack => ?_⟩
      rcases List.mem_append.mp hack with hack | hack
      · exact h.acknowledgements acknowledgement hack
      -- The acknowledgement is by the guid of the item that the envelope was built from.
      · obtain ⟨guid, hguid⟩ := (h.served messageDict hmem).guid
        obtain ⟨serverTimestamp, htime⟩ := (h.served messageDict hmem).serverTimestamp
        rw [acknowledgeDelivery_of_build hbuilt hguid htime] at hack
        exact ⟨messageDict, hmem, hhanded, guid, serverTimestamp, hguid,
          List.mem_singleton.mp hack⟩
  | fetchesMore hjobs => exact h.of_jobs (forall_replace (hjobs ▸ h.jobs) trivial)
  | finished hjobs => exact h.of_jobs (forall_remove (hjobs ▸ h.jobs))
  | @acknowledgementTookEffect before after acknowledgement hacknowledgements =>
      refine ⟨h.served, h.guids, fun messageDict hmem => ?_, fun messageDict hmem => ?_, h.jobs,
        forall_remove (hacknowledgements ▸ h.acknowledgements)⟩
      · exact h.arrived_of_queued messageDict (List.mem_of_mem_filter hmem)
      -- What the acknowledgement deletes from the queue has been handed over.
      · rcases h.kept messageDict hmem with hqueue | hhanded
        · cases hdeletes : acknowledgement.deletes messageDict with
          | false => exact .inl (List.mem_filter.mpr ⟨hqueue, by rw [hdeletes]; rfl⟩)
          | true =>
              exact .inr (h.handedOver_of_deletes (by rw [hacknowledgements]; simp) hmem hdeletes)
        · exact .inr hhanded
  | acknowledgementFailed hacknowledgements =>
      exact ⟨h.served, h.guids, h.arrived_of_queued, h.kept, h.jobs,
        forall_remove (hacknowledgements ▸ h.acknowledgements)⟩
  | arrived messageDict hserved hnew =>
      have hgrows : s.arrived ⊆ s.arrived ++ [messageDict] := List.subset_append_left _ _
      refine ⟨fun other hother => ?_, ?_, fun other hother => ?_, fun other hother => ?_,
        fun job hjob => (h.jobs job hjob).mono hgrows (List.Subset.refl _),
        fun acknowledgement hack => ?_⟩
      · rcases List.mem_append.mp hother with hother | hother
        · exact h.served other hother
        · rw [List.mem_singleton.mp hother]
          exact hserved
      · rw [List.map_append, List.nodup_append]
        refine ⟨h.guids, List.nodup_singleton _, fun guid hguid guid' hguid' => ?_⟩
        obtain ⟨earlier, hearlier, rfl⟩ := List.mem_map.mp hguid
        rw [List.map_singleton, List.mem_singleton] at hguid'
        rw [hguid']
        exact hnew earlier hearlier
      · rcases List.mem_append.mp hother with hother | hother
        · exact hgrows (h.arrived_of_queued other hother)
        · exact List.mem_append_right _ hother
      · rcases List.mem_append.mp hother with hother | hother
        · exact (h.kept other hother).imp_left fun hqueue => List.mem_append_left _ hqueue
        · exact .inl (List.mem_append_right _ hother)
      · obtain ⟨other, hother, hhanded, hguid⟩ := h.acknowledgements acknowledgement hack
        exact ⟨other, hgrows hother, hhanded, hguid⟩
  | killed => exact h.of_jobs fun job hjob => by cases hjob

theorem accounted_start (hserved : ∀ messageDict ∈ queue, IsServed P messageDict)
    (hguids : (queue.map (·.guid)).Nodup) : Accounted P (start queue) where
  served := hserved
  guids := hguids
  arrived_of_queued _ hmem := hmem
  kept _ hmem := .inl hmem
  jobs job hjob := by cases hjob
  acknowledgements acknowledgement hack := by cases hack

/-- **In every run** what is known holds. -/
theorem Accounted.of_run (hserved : ∀ messageDict ∈ queue, IsServed P messageDict)
    (hguids : (queue.map (·.guid)).Nodup) {events : List FetchEvent}
    (run : LabelledRun (Step P pageSize) (start queue) events s) : Accounted P s :=
  run.invariant (I := fun _ s => Accounted P s) (accounted_start hserved hguids)
    fun _ _ _ _ h hstep => h.step hstep

end FetchSystem

/-! ## With nothing in the way -/

/-- What the server has, and what the receiver has committed. -/
structure Mailbox where
  queue : List MessageDict
  committed : List NSData

namespace Mailbox

open FetchSystem

variable (P : FetchPrimitives) (pageSize : ℕ)

/-- A page is fetched, handed over and acknowledged, and the acknowledgements take effect. -/
def afterPage (mailbox : Mailbox) : Mailbox :=
  let envelopes := (fetchUndeliveredMessages P pageSize mailbox.queue).1
  { queue := (envelopes.filterMap acknowledgeDelivery).foldl deleteAcknowledged mailbox.queue
    committed := mailbox.committed ++ envelopes.flatMap (committedData P) }

/-- `run()`, where every request succeeds, no envelope arrives and the app is not killed; `none`
after so many fetches that there is still more to fetch. -/
def undisturbedRun : (fetches : ℕ) → Mailbox → Option Mailbox
  | 0, _ => none
  | fetches + 1, mailbox =>
      if (fetchUndeliveredMessages P pageSize mailbox.queue).2 then
        undisturbedRun fetches (mailbox.afterPage P pageSize)
      else some (mailbox.afterPage P pageSize)

/-- Such a run ends, and everything that was on the server is handed over and deleted there. -/
def Delivers (queue : List MessageDict) : Prop :=
  ∃ fetches mailbox, undisturbedRun P pageSize fetches ⟨queue, []⟩ = some mailbox ∧
    mailbox.queue = [] ∧ ∀ messageDict ∈ queue, HandedOver P mailbox.committed messageDict

variable {P pageSize} {arrived : List MessageDict} {queue : List MessageDict} {mailbox : Mailbox}

/-- The loop over the envelopes of a page. -/
theorem run_handling (queue : List MessageDict) (envelopes : List SSKProtoEnvelope) (more : Bool)
    (committed : List NSData) (acknowledgements : List Acknowledgement) :
    ∃ events, LabelledRun (Step P pageSize)
      ⟨queue, arrived, committed, [.handling envelopes more], acknowledgements⟩ events
      ⟨queue, arrived, committed ++ envelopes.flatMap (committedData P), [.handling [] more],
        acknowledgements ++ envelopes.filterMap acknowledgeDelivery⟩ := by
  induction envelopes generalizing committed acknowledgements with
  | nil => exact ⟨[], by simpa using LabelledRun.refl⟩
  | cons envelope envelopes ih =>
      obtain ⟨events, run⟩ := ih (committed ++ committedData P envelope)
        (acknowledgements ++ (acknowledgeDelivery envelope).toList)
      have first : LabelledRun (Step P pageSize)
          ⟨queue, arrived, committed, [.handling (envelope :: envelopes) more], acknowledgements⟩
          ([] ++ [.handedOver] ++ [.acknowledged])
          ⟨queue, arrived, committed ++ committedData P envelope, [.handling envelopes more],
            acknowledgements ++ (acknowledgeDelivery envelope).toList⟩ :=
        .tail (.tail .refl (@Step.handedOver P pageSize _ [] [] envelope envelopes more rfl))
          (@Step.acknowledged P pageSize _ [] [] envelope envelopes more rfl)
      have both := first.trans run
      simp only [List.filterMap_eq_flatMap_toList, List.append_assoc] at both
      exact ⟨_, by
        simpa only [List.filterMap_eq_flatMap_toList, List.flatMap_cons] using both⟩

theorem run_acknowledgements (queue : List MessageDict) (committed : List NSData)
    (jobs : List FetchJob) (acknowledgements : List Acknowledgement) :
    ∃ events, LabelledRun (Step P pageSize)
      ⟨queue, arrived, committed, jobs, acknowledgements⟩ events
      ⟨acknowledgements.foldl deleteAcknowledged queue, arrived, committed, jobs, []⟩ := by
  induction acknowledgements generalizing queue with
  | nil => exact ⟨[], .refl⟩
  | cons acknowledgement acknowledgements ih =>
      obtain ⟨events, run⟩ := ih (deleteAcknowledged queue acknowledgement)
      have first : LabelledRun (Step P pageSize)
          ⟨queue, arrived, committed, jobs, acknowledgement :: acknowledgements⟩
          ([] ++ [.acknowledgementTookEffect])
          ⟨deleteAcknowledged queue acknowledgement, arrived, committed, jobs,
            acknowledgements⟩ :=
        .tail .refl (@Step.acknowledgementTookEffect P pageSize _ [] acknowledgements
          acknowledgement rfl)
      exact ⟨_, first.trans run⟩

def jobsAfter (more : Bool) : List FetchJob := if more then [.fetching] else []

/-- **A page of an undisturbed run is a run of the system.** -/
theorem run_afterPage (mailbox : Mailbox) :
    ∃ events, LabelledRun (Step P pageSize)
      ⟨mailbox.queue, arrived, mailbox.committed, [.fetching], []⟩ events
      ⟨(mailbox.afterPage P pageSize).queue, arrived, (mailbox.afterPage P pageSize).committed,
        jobsAfter (fetchUndeliveredMessages P pageSize mailbox.queue).2, []⟩ := by
  have fetched : LabelledRun (Step P pageSize)
      ⟨mailbox.queue, arrived, mailbox.committed, [.fetching], []⟩ ([] ++ [.fetched]) _ :=
    .tail .refl (@Step.fetched P pageSize _ [] [] rfl)
  obtain ⟨handling, runHandling⟩ := @run_handling P pageSize arrived mailbox.queue
    (fetchUndeliveredMessages P pageSize mailbox.queue).1
    (fetchUndeliveredMessages P pageSize mailbox.queue).2 mailbox.committed []
  have runPage := fetched.trans runHandling
  cases hmore : (fetchUndeliveredMessages P pageSize mailbox.queue).2 with
  | true =>
      rw [hmore] at runPage
      have more := LabelledRun.tail runPage (@Step.fetchesMore P pageSize _ [] [] rfl)
      obtain ⟨effects, runEffects⟩ := @run_acknowledgements P pageSize arrived mailbox.queue
        (mailbox.afterPage P pageSize).committed [.fetching]
        ((fetchUndeliveredMessages P pageSize mailbox.queue).1.filterMap acknowledgeDelivery)
      exact ⟨_, more.trans runEffects⟩
  | false =>
      rw [hmore] at runPage
      have finished := LabelledRun.tail runPage (@Step.finished P pageSize _ [] [] rfl)
      obtain ⟨effects, runEffects⟩ := @run_acknowledgements P pageSize arrived mailbox.queue
        (mailbox.afterPage P pageSize).committed []
        ((fetchUndeliveredMessages P pageSize mailbox.queue).1.filterMap acknowledgeDelivery)
      exact ⟨_, finished.trans runEffects⟩

/-- **An undisturbed run is a run of the system**, at whose end there are no jobs. -/
theorem run_of_undisturbedRun {fetches : ℕ} {mailbox mailbox' : Mailbox}
    (h : mailbox.undisturbedRun P pageSize fetches = some mailbox') :
    ∃ events, LabelledRun (Step P pageSize)
      ⟨mailbox.queue, arrived, mailbox.committed, [.fetching], []⟩ events
      ⟨mailbox'.queue, arrived, mailbox'.committed, [], []⟩ := by
  induction fetches generalizing mailbox with
  | zero => cases h
  | succ fetches ih =>
      obtain ⟨events, run⟩ := @run_afterPage P pageSize arrived mailbox
      rw [undisturbedRun] at h
      split at h
      · rename_i hmore
        rw [hmore] at run
        obtain ⟨rest, runRest⟩ := ih h
        exact ⟨_, run.trans runRest⟩
      · rename_i hmore
        obtain rfl := Option.some.inj h
        rw [Bool.eq_false_iff.mpr hmore] at run
        exact ⟨events, run⟩

/-! ### What a page delivers -/

theorem foldl_deleteAcknowledged (acknowledgements : List Acknowledgement)
    (queue : List MessageDict) :
    acknowledgements.foldl deleteAcknowledged queue =
      queue.filter fun messageDict => !acknowledgements.any (·.deletes messageDict) := by
  induction acknowledgements generalizing queue with
  | nil => simp
  | cons acknowledgement acknowledgements ih =>
      rw [List.foldl_cons, ih, deleteAcknowledged, List.filter_filter]
      congr 1
      funext messageDict
      rw [List.any_cons, Bool.not_or, Bool.and_comm]

/-- An item of a page, complete, is built, handed over and acknowledged by its guid. -/
theorem exists_envelope_of_complete {messageDict : MessageDict} (hserved : IsServed P messageDict)
    (hcomplete : IsComplete P messageDict) : ∃ envelope guid serverTimestamp,
      buildEnvelope P messageDict = some envelope ∧ messageDict.guid = .value guid ∧
      messageDict.serverTimestamp = .value serverTimestamp ∧
      acknowledgeDelivery envelope = some (.byServerGuid guid serverTimestamp) := by
  obtain ⟨envelope, hbuilt⟩ :=
    Option.isSome_iff_exists.mp (hserved.buildEnvelope_isSome_iff.mpr hcomplete)
  obtain ⟨guid, hguid⟩ := hserved.guid
  obtain ⟨serverTimestamp, htime⟩ := hserved.serverTimestamp
  exact ⟨envelope, guid, serverTimestamp, hbuilt, hguid, htime,
    acknowledgeDelivery_of_build hbuilt hguid htime⟩

theorem mem_acknowledged {acknowledgement : Acknowledgement} :
    acknowledgement ∈
        (fetchUndeliveredMessages P pageSize queue).1.filterMap acknowledgeDelivery ↔
      ∃ messageDict ∈ queue.take pageSize, ∃ envelope,
        buildEnvelope P messageDict = some envelope ∧
          acknowledgeDelivery envelope = some acknowledgement := by
  simp only [fetchUndeliveredMessages, parseMessagesResponse, List.mem_filterMap]
  constructor
  · rintro ⟨envelope, ⟨messageDict, hmem, hbuilt⟩, hack⟩
    exact ⟨messageDict, hmem, envelope, hbuilt, hack⟩
  · rintro ⟨messageDict, hmem, envelope, hbuilt, hack⟩
    exact ⟨envelope, ⟨messageDict, hmem, hbuilt⟩, hack⟩

/-- The messages the server may return, with what the app asks of them. -/
structure Deliverable (P : FetchPrimitives) (queue : List MessageDict) : Prop where
  served : ∀ messageDict ∈ queue, IsServed P messageDict
  guids : (queue.map (·.guid)).Nodup
  complete : ∀ messageDict ∈ queue, IsComplete P messageDict

theorem Deliverable.drop (h : Deliverable P queue) (n : ℕ) : Deliverable P (queue.drop n) where
  served messageDict hmem := h.served messageDict (List.mem_of_mem_drop hmem)
  guids := by
    rw [List.map_drop]
    exact h.guids.sublist (List.drop_sublist _ _)
  complete messageDict hmem := h.complete messageDict (List.mem_of_mem_drop hmem)

/-- **A page of complete items is gone** from the server after it was fetched. -/
theorem Deliverable.queue_afterPage (h : Deliverable P mailbox.queue) :
    (mailbox.afterPage P pageSize).queue = mailbox.queue.drop pageSize := by
  have hpage : ∀ messageDict ∈ mailbox.queue.take pageSize,
      ((fetchUndeliveredMessages P pageSize mailbox.queue).1.filterMap acknowledgeDelivery).any
        (·.deletes messageDict) = true := by
    intro messageDict hmem
    have hqueue := List.mem_of_mem_take hmem
    obtain ⟨envelope, guid, serverTimestamp, hbuilt, hguid, htime, hack⟩ :=
      exists_envelope_of_complete (h.served _ hqueue) (h.complete _ hqueue)
    refine List.any_eq_true.mpr ⟨_, mem_acknowledged.mpr ⟨messageDict, hmem, envelope, hbuilt,
      hack⟩, ?_⟩
    simp [Acknowledgement.deletes, hguid, htime]
  have hrest : ∀ messageDict ∈ mailbox.queue.drop pageSize,
      ((fetchUndeliveredMessages P pageSize mailbox.queue).1.filterMap acknowledgeDelivery).any
        (·.deletes messageDict) = false := by
    intro messageDict hmem
    refine List.any_eq_false.mpr fun acknowledgement hack hdeletes => ?_
    obtain ⟨fetched, hfetched, envelope, hbuilt, hacknowledged⟩ := mem_acknowledged.mp hack
    have hqueue := List.mem_of_mem_take hfetched
    obtain ⟨_, guid, serverTimestamp, hbuilt', hguid, -, hacknowledged'⟩ :=
      exists_envelope_of_complete (h.served _ hqueue) (h.complete _ hqueue)
    obtain rfl := Option.some.inj (hbuilt.symm.trans hbuilt')
    obtain rfl := Option.some.inj (hacknowledged.symm.trans hacknowledged')
    simp only [Acknowledgement.deletes, decide_eq_true_eq] at hdeletes
    -- A fetched item and one that is left have different guids.
    have hguids := h.guids
    rw [← List.take_append_drop pageSize mailbox.queue, List.map_append,
      List.nodup_append] at hguids
    exact hguids.2.2 _ (List.mem_map_of_mem hfetched) _ (List.mem_map_of_mem hmem)
      (hguid.trans hdeletes.1.symm)
  rw [afterPage, foldl_deleteAcknowledged]
  generalize (fetchUndeliveredMessages P pageSize mailbox.queue).1.filterMap acknowledgeDelivery =
    acknowledgements at hpage hrest
  conv_lhs => rw [← List.take_append_drop pageSize mailbox.queue]
  rw [List.filter_append, List.filter_eq_nil_iff.mpr, List.filter_eq_self.mpr, List.nil_append]
  · intro messageDict hmem
    rw [hrest messageDict hmem]
    rfl
  · intro messageDict hmem
    rw [hpage messageDict hmem]
    exact Bool.false_ne_true

theorem Deliverable.handedOver_afterPage (h : Deliverable P mailbox.queue)
    {messageDict : MessageDict} (hmem : messageDict ∈ mailbox.queue.take pageSize) :
    HandedOver P (mailbox.afterPage P pageSize).committed messageDict := by
  have hqueue := List.mem_of_mem_take hmem
  obtain ⟨envelope, -, -, hbuilt, -, -, -⟩ :=
    exists_envelope_of_complete (h.served _ hqueue) (h.complete _ hqueue)
  refine handedOver_committedData (h.served _ hqueue) hbuilt fun data hdata => ?_
  refine List.mem_append_right _ (List.mem_flatMap.mpr ⟨envelope, ?_, hdata⟩)
  exact List.mem_filterMap.mpr ⟨messageDict, hmem, hbuilt⟩

/-- **An undisturbed run over complete items ends**, and everything is handed over. -/
theorem Deliverable.undisturbedRun (hsize : 1 ≤ pageSize) {fetches : ℕ}
    (h : Deliverable P mailbox.queue) (hfetches : mailbox.queue.length < fetches) :
    ∃ mailbox', mailbox.undisturbedRun P pageSize fetches = some mailbox' ∧
      mailbox'.queue = [] ∧ mailbox.committed ⊆ mailbox'.committed ∧
      ∀ messageDict ∈ mailbox.queue, HandedOver P mailbox'.committed messageDict := by
  induction fetches generalizing mailbox with
  | zero => exact absurd hfetches (Nat.not_lt_zero _)
  | succ fetches ih =>
      have hqueue : (mailbox.afterPage P pageSize).queue = mailbox.queue.drop pageSize :=
        h.queue_afterPage
      have hgrows : mailbox.committed ⊆ (mailbox.afterPage P pageSize).committed :=
        List.subset_append_left _ _
      rw [Mailbox.undisturbedRun]
      split
      · rename_i hmore
        have hlonger : pageSize < mailbox.queue.length := of_decide_eq_true hmore
        have hrest : Deliverable P (mailbox.afterPage P pageSize).queue := hqueue ▸ h.drop pageSize
        have hlength : (mailbox.afterPage P pageSize).queue.length < fetches := by
          rw [hqueue, List.length_drop]
          omega
        obtain ⟨mailbox', hrun, hempty, hcommitted, hhanded⟩ := ih hrest hlength
        refine ⟨mailbox', hrun, hempty, fun data hdata => hcommitted (hgrows hdata),
          fun messageDict hmem => ?_⟩
        rw [← List.take_append_drop pageSize mailbox.queue] at hmem
        rcases List.mem_append.mp hmem with hpage | hrest
        · exact (h.handedOver_afterPage hpage).mono hcommitted
        · exact hhanded messageDict (hqueue ▸ hrest)
      · rename_i hmore
        have hshorter : mailbox.queue.length ≤ pageSize :=
          Nat.not_lt.mp fun hlonger => hmore (decide_eq_true hlonger)
        refine ⟨_, rfl, hqueue.trans (List.drop_eq_nil_of_le hshorter), hgrows,
          fun messageDict hmem => h.handedOver_afterPage ?_⟩
        rwa [List.take_of_length_le hshorter]

/-- **When an undisturbed run delivers**: where every item is complete. -/
theorem delivers_iff (hsize : 1 ≤ pageSize)
    (hserved : ∀ messageDict ∈ queue, IsServed P messageDict)
    (hguids : (queue.map (·.guid)).Nodup) :
    Delivers P pageSize queue ↔ ∀ messageDict ∈ queue, IsComplete P messageDict := by
  constructor
  · rintro ⟨fetches, mailbox, -, -, hhanded⟩ messageDict hmem
    obtain ⟨envelope, data, hbuilt, -, -⟩ := hhanded messageDict hmem
    exact (hserved messageDict hmem).buildEnvelope_isSome_iff.mp (by rw [hbuilt]; rfl)
  · intro hcomplete
    have hdeliverable : Deliverable P (⟨queue, []⟩ : Mailbox).queue :=
      ⟨hserved, hguids, hcomplete⟩
    obtain ⟨mailbox, hrun, hempty, -, hhanded⟩ :=
      hdeliverable.undisturbedRun hsize (Nat.lt_succ_self _)
    exact ⟨_, mailbox, hrun, hempty, hhanded⟩

end Mailbox

/-! ## Both -/

open FetchSystem Mailbox

/-- **Fetching loses nothing, and ends exactly where every item is complete.**

* In every run, whatever fails or arrives and whenever the app is killed, each item is still on the
  server or was handed over, and only an item that was is acknowledged.
* A run with nothing in its way ends, everything handed over and deleted on the server, exactly if
  every item has a source and a source device, and contents that are valid base64. -/
theorem fetching_loses_nothing_and_ends_iff {P : FetchPrimitives} {pageSize : ℕ}
    (hsize : 1 ≤ pageSize) {queue : List MessageDict}
    (hserved : ∀ messageDict ∈ queue, IsServed P messageDict)
    (hguids : (queue.map (·.guid)).Nodup) :
    (∀ events s, LabelledRun (Step P pageSize) (start queue) events s →
      (∀ messageDict ∈ s.arrived,
        messageDict ∈ s.queue ∨ HandedOver P s.committed messageDict) ∧
      ∀ acknowledgement ∈ s.acknowledgements, ∀ messageDict ∈ s.arrived,
        acknowledgement.deletes messageDict = true → HandedOver P s.committed messageDict) ∧
      (Delivers P pageSize queue ↔ ∀ messageDict ∈ queue, IsComplete P messageDict) := by
  refine ⟨fun events s run => ?_, delivers_iff hsize hserved hguids⟩
  have haccounted := Accounted.of_run hserved hguids run
  exact ⟨haccounted.kept, fun acknowledgement hack messageDict hmem hdeletes =>
    haccounted.handedOver_of_deletes hack hmem hdeletes⟩

/-! ### Samples -/

/-- An envelope is serialized as its content behind a zero. -/
def sampleFetchPrimitives : FetchPrimitives where
  base64Encoded encodedData := some (utf8 encodedData)
  serializedData envelope := some (0 :: envelope.content.getD [])

/-- A message without contents, of a source or of a sealed sender. -/
def sampleMessageDict (guid : String) (source : Option String) : MessageDict where
  type := .value (if source.isSome then 1 else 6)
  source := source.elim .missing .value
  timestamp := .value 1
  sourceDevice := source.elim .missing fun _ => .value 1
  message := .missing
  content := .missing
  serverTimestamp := .value 2
  guid := .value guid

theorem isServed_sampleMessageDict (guid : String) (source : Option String) :
    IsServed sampleFetchPrimitives (sampleMessageDict guid source) where
  type := by
    cases source with
    | none => exact ⟨6, .unidentifiedSender, rfl, rfl⟩
    | some source => exact ⟨1, .ciphertext, rfl, rfl⟩
  timestamp := ⟨1, rfl⟩
  guid := ⟨guid, rfl⟩
  serverTimestamp := ⟨2, rfl⟩
  size := by
    intro envelope hbuilt
    obtain ⟨type, -, source, -, timestamp, -, sourceDevice, -, message, -, content, hcontent,
      time, -, serverGuid, -, rfl⟩ := buildEnvelope_eq_some.mp hbuilt
    obtain rfl := Except.ok.inj hcontent
    exact ⟨[0], rfl, by decide⟩

/-- Two messages with sources, a page each. -/
theorem fetching_loses_nothing_and_ends_iff_sample :
    Delivers sampleFetchPrimitives 1
      [sampleMessageDict "a" (some "+1"), sampleMessageDict "b" (some "+2")] := by
  refine (fetching_loses_nothing_and_ends_iff (le_refl 1) (fun messageDict hmem => ?_)
    (by decide)).2.mpr fun messageDict hmem => ?_
  · simp only [List.mem_cons, List.not_mem_nil, or_false] at hmem
    rcases hmem with rfl | rfl
    · exact isServed_sampleMessageDict _ _
    · exact isServed_sampleMessageDict _ _
  · simp only [List.mem_cons, List.not_mem_nil, or_false] at hmem
    rcases hmem with rfl | rfl
    · exact ⟨⟨_, rfl⟩, ⟨_, rfl⟩, .inl rfl, .inl rfl⟩
    · exact ⟨⟨_, rfl⟩, ⟨_, rfl⟩, .inl rfl, .inl rfl⟩

theorem run_of_undisturbedRun_sample :
    ∃ events, LabelledRun (Step sampleFetchPrimitives 1)
      ⟨[sampleMessageDict "a" (some "+1")], [], [], [.fetching], []⟩ events
      ⟨[], [], [[0]], [], []⟩ :=
  @run_of_undisturbedRun sampleFetchPrimitives 1 [] 1 ⟨[sampleMessageDict "a" (some "+1")], []⟩
    ⟨[], [[0]]⟩ rfl

theorem sealed_senders_are_fetched_forever :
    (∀ messageDict ∈ [sampleMessageDict "a" none, sampleMessageDict "b" none],
      IsServed sampleFetchPrimitives messageDict) ∧
    (∀ fetches, undisturbedRun sampleFetchPrimitives 1 fetches
      ⟨[sampleMessageDict "a" none, sampleMessageDict "b" none], []⟩ = none) ∧
    ¬Delivers sampleFetchPrimitives 1
      [sampleMessageDict "a" none, sampleMessageDict "b" none] := by
  have hforever : ∀ fetches, undisturbedRun sampleFetchPrimitives 1 fetches
      ⟨[sampleMessageDict "a" none, sampleMessageDict "b" none], []⟩ = none := by
    intro fetches
    induction fetches with
    | zero => rfl
    | succ fetches ih => exact ih
  refine ⟨fun messageDict hmem => ?_, hforever, ?_⟩
  · simp only [List.mem_cons, List.not_mem_nil, or_false] at hmem
    rcases hmem with rfl | rfl
    · exact isServed_sampleMessageDict _ _
    · exact isServed_sampleMessageDict _ _
  · rintro ⟨fetches, mailbox, hrun, -⟩
    rw [hforever fetches] at hrun
    cases hrun

end ObjcSwiftLearning.Signal
