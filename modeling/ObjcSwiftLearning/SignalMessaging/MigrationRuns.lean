import Mathlib.Data.Prod.Lex
import ObjcSwiftLearning.SignalMessaging.DatabaseMigrations

/-!
# Migrations run in order and resume

Over all launches, with kills and with outgoing messages that come, change and go beside them.

* `MigrationWorld.Orderly` — what each step has to be, after what came before it.
* `MigrationWorld.EffectCommitted` — what has to be committed before a migration is recorded.
* `MigrationWorld.migrationsResume` — **the migrations run in order and resume.**
-/

namespace ObjcSwiftLearning.SignalMessaging

open SignalServiceKit

/-! ## One batch -/

namespace ResaveBatch

variable {batch : ResaveBatch} {messageId : String}
  {interactions : AList fun _ : String => ResavedInteraction} {recordIds : List String}

/-- The object of an id is saved as it is. -/
theorem lookup_resaveRecord :
    batch.resaveRecord.interactions.lookup messageId = batch.interactions.lookup messageId := by
  unfold resaveRecord
  split
  · rfl
  · rename_i last hlast
    split
    · rename_i message saved hlookup
      by_cases heq : messageId = last
      · subst heq
        rw [AList.lookup_insert, hlookup]
      · rw [AList.lookup_insert_ne heq]
    · rfl

theorem mem_saved_resaveRecord (h : messageId ∈ batch.saved) :
    messageId ∈ batch.resaveRecord.saved := by
  unfold resaveRecord
  split
  · exact h
  · split
    · exact List.mem_append_left _ h
    · exact h

theorem mem_resaveRecord (h : messageId ∈ batch.recordIds) {message : ResavedMessage}
    {saved : message.shouldBeSaved = true}
    (hlookup : batch.interactions.lookup messageId = some (.outgoing message saved)) :
    messageId ∈ batch.resaveRecord.recordIds ∨ messageId ∈ batch.resaveRecord.saved := by
  unfold resaveRecord
  split
  · exact Or.inl h
  · rename_i last hlast
    obtain ⟨others, hothers⟩ := List.getLast?_eq_some_iff.mp hlast
    rw [hothers] at h ⊢
    obtain hin | heq := List.mem_append.mp h
    · split
      · exact Or.inl (by simpa using hin)
      · exact Or.inl (by simpa using hin)
    · obtain rfl := List.mem_singleton.mp heq
      split
      · exact Or.inr (by simp)
      · rename_i hnot
        exact absurd hlookup (hnot message saved)

/-- One id fewer is left, where there are any. -/
theorem length_resaveRecord :
    batch.resaveRecord.recordIds.length = batch.recordIds.length - 1 := by
  unfold resaveRecord
  split
  · rename_i hnone
    rw [List.getLast?_eq_none_iff.mp hnone]
    rfl
  · split
    · exact List.length_dropLast
    · exact List.length_dropLast

theorem lookup_iterate (n : ℕ) :
    (resaveRecord^[n] batch).interactions.lookup messageId =
      batch.interactions.lookup messageId := by
  induction n generalizing batch with
  | zero => rfl
  | succ n ih => rw [Function.iterate_succ_apply, ih, lookup_resaveRecord]

theorem mem_saved_iterate (n : ℕ) (h : messageId ∈ batch.saved) :
    messageId ∈ (resaveRecord^[n] batch).saved := by
  induction n generalizing batch with
  | zero => exact h
  | succ n ih => exact ih (mem_saved_resaveRecord h)

theorem mem_iterate (n : ℕ) (h : messageId ∈ batch.recordIds) {message : ResavedMessage}
    {saved : message.shouldBeSaved = true}
    (hlookup : batch.interactions.lookup messageId = some (.outgoing message saved)) :
    messageId ∈ (resaveRecord^[n] batch).recordIds ∨
      messageId ∈ (resaveRecord^[n] batch).saved := by
  induction n generalizing batch with
  | zero => exact Or.inl h
  | succ n ih =>
      obtain hleft | hsaved := mem_resaveRecord h hlookup
      · exact ih hleft (lookup_resaveRecord.trans hlookup)
      · exact Or.inr (mem_saved_iterate n hsaved)

theorem length_iterate (n : ℕ) :
    (resaveRecord^[n] batch).recordIds.length = batch.recordIds.length - n := by
  induction n generalizing batch with
  | zero => rfl
  | succ n ih =>
      rw [Function.iterate_succ_apply, ih, length_resaveRecord]
      omega

/-- **A batch leaves the messages as they are.** -/
theorem lookup_resaveBatch :
    (resaveBatch interactions recordIds).interactions.lookup messageId =
      interactions.lookup messageId := by
  unfold resaveBatch
  exact lookup_iterate 1000

/-- **After a batch the id of an outgoing message is left, or its object has been saved.** -/
theorem mem_resaveBatch (h : messageId ∈ recordIds) {message : ResavedMessage}
    {saved : message.shouldBeSaved = true}
    (hlookup : interactions.lookup messageId = some (.outgoing message saved)) :
    messageId ∈ (resaveBatch interactions recordIds).recordIds ∨
      messageId ∈ (resaveBatch interactions recordIds).saved := by
  unfold resaveBatch
  exact @mem_iterate ⟨interactions, recordIds, []⟩ messageId 1000 h message saved hlookup

theorem length_resaveBatch :
    (resaveBatch interactions recordIds).recordIds.length = recordIds.length - 1000 := by
  unfold resaveBatch
  exact length_iterate 1000

end ResaveBatch

namespace MigrationWorld

open OWSDatabaseMigration LabelledRun MigrationEvent

variable {database atStart : MigratedDatabase} {world world' : MigrationWorld}
  {event : MigrationEvent} {labels earlier second : List MigrationEvent}
  {migration : OWSDatabaseMigration} {migrations done : List OWSDatabaseMigration}
  {phase phase' : MigrationPhase} {messageId : String}

/-! ## What is to be shown -/

def startedSince (labels : List MigrationEvent) : List OWSDatabaseMigration :=
  (since isLaunch labels).filterMap started?

/-- A step is as it should be after the earlier ones, where this had been stored first. -/
structure Orderly (first : MigratedDatabase) (earlier : List MigrationEvent)
    (before : MigrationWorld) (event : MigrationEvent) (after : MigrationWorld) : Prop where
  inOrder : ∀ migration isRegistered hasLocalNumber,
    event = .start migration isRegistered hasLocalNumber →
    (startedSince earlier ++ [migration]).Sublist allMigrations
  /-- Those that it has started before have finished since. -/
  finished : ∀ migration isRegistered hasLocalNumber,
    event = .start migration isRegistered hasLocalNumber →
    ∀ migration' ∈ startedSince earlier,
      .finish migration' ∈ since (starts migration') earlier
  /-- None starts that has been recorded, in this launch or in another. -/
  neverAgain : ∀ migration isRegistered hasLocalNumber,
    event = .start migration isRegistered hasLocalNumber →
    .record migration ∉ earlier ∧ ¬first.HasRun migration
  completesOnce : event = .complete → .complete ∉ since isLaunch earlier
  recordedOnly : ∀ migration, after.database.HasRun migration →
    before.database.HasRun migration ∨ event = .record migration
  /-- The messages are left as they are, unless they are changed beside the migrations. -/
  untouched : event.isOfMessage = false → ∀ messageId,
    after.database.interactions.lookup messageId = before.database.interactions.lookup messageId

/-- What a migration does to the database is committed: by what has happened since it started,
when this was stored. -/
def EffectCommitted (atStart : MigratedDatabase) (since : List MigrationEvent) :
    OWSDatabaseMigration → Prop
  | .enableVideoCalling => True
  | .ensureProfileComplete =>
      .profileFetched .invalidIdentityKey ∈ since → .preKeysSent true ∈ since
  | .outgoingMessageState =>
      ∀ messageId, atStart.IsOutgoing messageId →
        .delete messageId ∈ since ∨ ∃ saved, .resave saved ∈ since ∧ messageId ∈ saved
  | .udAttributes => .requestAttributesUpdate ∈ since
  | .typingIndicators => .disableTypingIndicators ∈ since
  | migration => .transaction migration ∈ since

def RecordsCommitted (start : MigrationWorld) (earlier : List MigrationEvent)
    (before : MigrationWorld) (migration : OWSDatabaseMigration) : Prop :=
  ∃ first isRegistered hasLocalNumber second s₀ s₁,
    earlier = first ++ .start migration isRegistered hasLocalNumber :: second ∧
    LabelledRun Step start first s₀ ∧
    Step s₀ (.start migration isRegistered hasLocalNumber) s₁ ∧
    LabelledRun Step s₁ second before ∧ .launch ∉ second ∧
    EffectCommitted s₀.database second migration

/-- **Migrations run in order and resume**, where this is stored first. -/
structure MigrationsResume (first : MigratedDatabase) : Prop where
  orderly : ∀ earlier before event after,
    LabelledRun Step ⟨first, .notRunning⟩ earlier before → Step before event after →
    Orderly first earlier before event after
  committed : ∀ earlier before migration after,
    LabelledRun Step ⟨first, .notRunning⟩ earlier before →
    Step before (.record migration) after →
    RecordsCommitted ⟨first, .notRunning⟩ earlier before migration
  notStuck : ∀ earlier world, LabelledRun Step ⟨first, .notRunning⟩ earlier world →
    world.launch ≠ .notRunning → world.launch ≠ .completed →
    ∃ event world', event.isOfLaunch = true ∧ Step world event world'
  /-- A launch that is not killed, and goes on as long as it has not completed, calls the
  completion once. -/
  completes : ∀ (world : ℕ → MigrationWorld) (event : ℕ → MigrationEvent),
    (∀ n, Step (world n) (event n) (world (n + 1))) → event 0 = .launch →
    (∀ n, event n ≠ .kill) →
    (∀ n, (world n).launch ≠ .completed → ∃ k, n ≤ k ∧ (event k).isOfLaunch = true) →
    ∃ n, event n = .complete ∧ ∀ k, event k = .complete → k = n

/-! ## The order -/

/-- A launch is through with some migrations, and one may be under way. -/
structure Progress (labels : List MigrationEvent) (done : List OWSDatabaseMigration)
    (current : Option OWSDatabaseMigration) : Prop where
  started : (startedSince labels).Sublist (done ++ current.toList)
  finished : ∀ migration ∈ startedSince labels, current ≠ some migration →
    .finish migration ∈ since (starts migration) labels
  notComplete : .complete ∉ since isLaunch labels

/-- A launch has just begun. -/
theorem Progress.launch : Progress (labels ++ [.launch]) [] none := by
  have hsince : since isLaunch (labels ++ [.launch]) = [] := since_concat_of_pos rfl
  refine ⟨?_, ?_, ?_⟩
  · rw [startedSince, hsince]
    exact List.nil_sublist _
  · rw [startedSince, hsince]
    intro migration hin
    cases hin
  · rw [hsince]
    exact List.not_mem_nil

theorem Progress.other {current : Option OWSDatabaseMigration}
    (h : Progress labels done current) (hlaunch : event.isLaunch = false)
    (hstarted : event.started? = none) (hcomplete : event ≠ .complete) :
    Progress (labels ++ [event]) done current := by
  have hsince : since isLaunch (labels ++ [event]) = since isLaunch labels ++ [event] :=
    since_concat_of_neg hlaunch
  have hsame : startedSince (labels ++ [event]) = startedSince labels := by
    rw [startedSince, hsince, List.filterMap_append, List.filterMap_cons_none hstarted,
      List.filterMap_nil, List.append_nil, startedSince]
  have hnot : ∀ migration, event.starts migration = false := by
    intro migration
    cases event with
    | start migration' => cases hstarted
    | _ => rfl
  refine ⟨hsame ▸ h.started, ?_, ?_⟩
  · intro migration hin hother
    rw [since_concat_of_neg (hnot migration)]
    exact List.mem_append_left _ (h.finished migration (hsame ▸ hin) hother)
  · rw [hsince]
    intro hin
    obtain hin | heq := List.mem_append.mp hin
    · exact h.notComplete hin
    · exact hcomplete (List.mem_singleton.mp heq).symm

theorem Progress.start (h : Progress labels done none) (isRegistered hasLocalNumber : Bool) :
    Progress (labels ++ [.start migration isRegistered hasLocalNumber]) done (some migration) := by
  have hsince : since isLaunch (labels ++ [.start migration isRegistered hasLocalNumber]) = _ :=
    since_concat_of_neg rfl
  have hmore : startedSince (labels ++ [.start migration isRegistered hasLocalNumber]) =
      startedSince labels ++ [migration] := by
    rw [startedSince, hsince, List.filterMap_append, startedSince]
    rfl
  have hstarted : (startedSince labels).Sublist done := by
    simpa using h.started
  refine ⟨?_, ?_, ?_⟩
  · rw [hmore]
    exact hstarted.append (List.Sublist.refl _)
  · intro migration' hin hother
    have hne : migration ≠ migration' := fun heq => hother (congrArg some heq)
    rw [since_concat_of_neg (by simpa [starts] using hne)]
    rw [hmore] at hin
    obtain hin | heq := List.mem_append.mp hin
    · exact List.mem_append_left _ (h.finished migration' hin fun heq => by cases heq)
    · exact absurd (List.mem_singleton.mp heq).symm hne
  · rw [hsince]
    simpa using h.notComplete

theorem Progress.finish (h : Progress labels done (some migration)) :
    Progress (labels ++ [.finish migration]) (done ++ [migration]) none := by
  have hother : Progress (labels ++ [.finish migration]) done (some migration) :=
    h.other rfl rfl (fun h => by cases h)
  obtain ⟨hstarted, hfinished, hnot⟩ := hother
  refine ⟨?_, ?_, hnot⟩
  · rw [Option.toList_none, List.append_nil]
    exact hstarted
  · intro migration' hin _
    by_cases heq : migration = migration'
    · subst heq
      rw [since_concat_of_neg rfl]
      exact List.mem_append_right _ (List.mem_singleton_self _)
    · exact hfinished migration' hin fun h => heq (Option.some.inj h)

/-- A migration that is skipped. -/
theorem Progress.skip (h : Progress labels done none) :
    Progress (labels ++ [.skip migration]) (done ++ [migration]) none := by
  have hother : Progress (labels ++ [.skip migration]) done none :=
    h.other rfl rfl (fun h => by cases h)
  obtain ⟨hstarted, hfinished, hnot⟩ := hother
  refine ⟨?_, hfinished, hnot⟩
  rw [Option.toList_none, List.append_nil] at hstarted ⊢
  exact hstarted.trans (List.sublist_append_left _ _)

def Ordered (labels : List MigrationEvent) : MigrationLaunch → Prop
  | .notRunning | .completed => True
  | .runMigrations migrations =>
      ∃ done, done ++ migrations = allMigrations ∧ Progress labels done none
  | .runUp migration _ migrations =>
      ∃ done, done ++ migration :: migrations = allMigrations ∧
        Progress labels done (some migration)
  | .completing => .complete ∉ since isLaunch labels

theorem Ordered.other {launch : MigrationLaunch} (h : Ordered labels launch)
    (hlaunch : event.isLaunch = false) (hstarted : event.started? = none)
    (hcomplete : event ≠ .complete) : Ordered (labels ++ [event]) launch := by
  cases launch with
  | notRunning | completed => trivial
  | runMigrations migrations | runUp migration phase migrations =>
      obtain ⟨done, hdone, hprogress⟩ := h
      exact ⟨done, hdone, hprogress.other hlaunch hstarted hcomplete⟩
  | completing =>
      rw [Ordered, since_concat_of_neg hlaunch]
      intro hin
      obtain hin | heq := List.mem_append.mp hin
      · exact h hin
      · exact hcomplete (List.mem_singleton.mp heq).symm

/-- **Every step keeps the order.** -/
theorem Ordered.step (h : Ordered labels world.launch) (hstep : Step world event world') :
    Ordered (labels ++ [event]) world'.launch := by
  have hother : event.isLaunch = false → event.started? = none → event ≠ .complete →
      Ordered (labels ++ [event]) world.launch := h.other
  cases hstep with
  | launch => exact ⟨[], rfl, .launch⟩
  | kill hrunning => trivial
  | noMoreMigrations =>
      obtain ⟨done, -, hprogress⟩ := hother rfl rfl (fun h => by cases h)
      exact hprogress.notComplete
  | complete => trivial
  | skip hrun =>
      obtain ⟨done, hdone, hprogress⟩ := h
      exact ⟨done ++ [_], by rw [List.append_assoc]; exact hdone, hprogress.skip⟩
  | start isRegistered hasLocalNumber hrun =>
      obtain ⟨done, hdone, hprogress⟩ := h
      exact ⟨done, hdone, hprogress.start isRegistered hasLocalNumber⟩
  | finish =>
      obtain ⟨done, hdone, hprogress⟩ := h
      exact ⟨done ++ [_], by rw [List.append_assoc]; exact hdone, hprogress.finish⟩
  | _ => exact hother rfl rfl (fun h => by cases h)

/-! ## What is committed -/

/-- What is so of a migration at a phase: what it has done, and what is left to do. -/
def PhaseEffect (atStart : MigratedDatabase) (migration : OWSDatabaseMigration)
    (second : List MigrationEvent) (database : MigratedDatabase) : MigrationPhase → Prop
  | .transaction => migration.isPlain = true
  | .attributesRequest => migration = .enableVideoCalling
  | .profileRequest =>
      migration = .ensureProfileComplete ∧ .profileFetched .invalidIdentityKey ∉ second
  | .preKeysCreation | .preKeysRequest _ => migration = .ensureProfileComplete
  | .collection =>
      migration = .outgoingMessageState ∧
        ∀ messageId, atStart.IsOutgoing messageId →
          .delete messageId ∈ second ∨ database.IsOutgoing messageId
  | .batches recordIds =>
      migration = .outgoingMessageState ∧
        ∀ messageId, atStart.IsOutgoing messageId →
          (.delete messageId ∈ second ∨ ∃ saved, .resave saved ∈ second ∧ messageId ∈ saved) ∨
            database.IsOutgoing messageId ∧ messageId ∈ recordIds
  | .attributesUpdate => migration = .udAttributes
  | .typingIndicatorsOff => migration = .typingIndicators
  | .save => EffectCommitted atStart second migration
  | .completion => True

/-- A migration without a transaction of its own starts with nothing done. -/
theorem phaseEffect_runUp (atStart : MigratedDatabase) (migration : OWSDatabaseMigration)
    (isRegistered hasLocalNumber : Bool) :
    PhaseEffect atStart migration [] atStart (migration.runUp isRegistered hasLocalNumber) := by
  cases migration with
  | enableVideoCalling =>
      cases isRegistered with
      | true => rfl
      | false => trivial
  | ensureProfileComplete =>
      have hnone : PhaseEffect atStart .ensureProfileComplete [] atStart .save :=
        fun hin => absurd hin List.not_mem_nil
      cases isRegistered with
      | false => exact hnone
      | true =>
          cases hasLocalNumber with
          | false => exact hnone
          | true => exact ⟨rfl, List.not_mem_nil⟩
  | outgoingMessageState => exact ⟨rfl, fun _ houtgoing => Or.inr houtgoing⟩
  | _ => rfl

theorem phaseEffect_ofRecordIds {recordIds : List String}
    (h : PhaseEffect atStart migration second database (.batches recordIds)) :
    PhaseEffect atStart migration second database (.ofRecordIds recordIds) := by
  cases recordIds with
  | nil =>
      obtain ⟨rfl, hall⟩ := h
      intro messageId houtgoing
      obtain hdone | ⟨-, hleft⟩ := hall messageId houtgoing
      · exact hdone
      · cases hleft
  | cons recordId recordIds => exact h

theorem EffectCommitted.other (h : EffectCommitted atStart second migration)
    (hprofile : event ≠ .profileFetched .invalidIdentityKey) :
    EffectCommitted atStart (second ++ [event]) migration := by
  cases migration with
  | enableVideoCalling => trivial
  | ensureProfileComplete =>
      intro hin
      obtain hin | heq := List.mem_append.mp hin
      · exact List.mem_append_left _ (h hin)
      · exact absurd (List.mem_singleton.mp heq).symm hprofile
  | outgoingMessageState =>
      intro messageId houtgoing
      obtain hdeleted | ⟨saved, hsaved, hin⟩ := h messageId houtgoing
      · exact Or.inl (List.mem_append_left _ hdeleted)
      · exact Or.inr ⟨saved, List.mem_append_left _ hsaved, hin⟩
  | _ => exact List.mem_append_left _ h

/-- **What happens beside a migration** leaves it as it is at its phase, where outgoing messages
that are gone have been deleted. -/
theorem PhaseEffect.other {database' : MigratedDatabase}
    (h : PhaseEffect atStart migration second database phase)
    (hprofile : event ≠ .profileFetched .invalidIdentityKey)
    (houtgoing : ∀ messageId, database.IsOutgoing messageId →
      event = .delete messageId ∨ database'.IsOutgoing messageId) :
    PhaseEffect atStart migration (second ++ [event]) database' phase := by
  have hdeleted : ∀ messageId, event = .delete messageId →
      .delete messageId ∈ second ++ [event] := by
    intro messageId heq
    rw [heq]
    exact List.mem_append_right _ (List.mem_singleton_self _)
  cases phase with
  | profileRequest =>
      refine ⟨h.1, fun hin => ?_⟩
      obtain hin | heq := List.mem_append.mp hin
      · exact h.2 hin
      · exact hprofile (List.mem_singleton.mp heq).symm
  | collection =>
      refine ⟨h.1, fun messageId hstart => ?_⟩
      obtain hbefore | hbefore := h.2 messageId hstart
      · exact Or.inl (List.mem_append_left _ hbefore)
      · exact (houtgoing messageId hbefore).imp_left (hdeleted messageId)
  | batches recordIds =>
      refine ⟨h.1, fun messageId hstart => ?_⟩
      obtain (hbefore | ⟨saved, hsaved, hin⟩) | ⟨hbefore, hleft⟩ := h.2 messageId hstart
      · exact Or.inl (Or.inl (List.mem_append_left _ hbefore))
      · exact Or.inl (Or.inr ⟨saved, List.mem_append_left _ hsaved, hin⟩)
      · obtain hgone | hafter := houtgoing messageId hbefore
        · exact Or.inl (Or.inl (hdeleted messageId hgone))
        · exact Or.inr ⟨hafter, hleft⟩
  | save => exact EffectCommitted.other h hprofile
  | _ => exact h

theorem isOutgoing_insert {key : String} {message : ResavedMessage}
    {saved : message.shouldBeSaved = true} (h : database.IsOutgoing messageId) :
    MigratedDatabase.IsOutgoing { database with
      interactions := database.interactions.insert key (.outgoing message saved) } messageId := by
  obtain ⟨interaction, hlookup, houtgoing⟩ := h
  by_cases heq : messageId = key
  · subst heq
    exact ⟨_, AList.lookup_insert _, rfl⟩
  · exact ⟨interaction, (AList.lookup_insert_ne heq).trans hlookup, houtgoing⟩

theorem isOutgoing_erase {key : String} (h : database.IsOutgoing messageId) :
    MigrationEvent.delete key = .delete messageId ∨
      MigratedDatabase.IsOutgoing { database with
        interactions := database.interactions.erase key } messageId := by
  obtain ⟨interaction, hlookup, houtgoing⟩ := h
  by_cases heq : messageId = key
  · exact Or.inl (congrArg _ heq.symm)
  · exact Or.inr ⟨interaction, (AList.lookup_erase_ne heq).trans hlookup, houtgoing⟩

theorem phaseEffect_resave {recordIds : List String}
    (h : PhaseEffect atStart migration second database (.batches recordIds)) :
    PhaseEffect atStart migration
      (second ++ [.resave (ResaveBatch.resaveBatch database.interactions recordIds).saved])
      { database with
        interactions := (ResaveBatch.resaveBatch database.interactions recordIds).interactions }
      (.batches (ResaveBatch.resaveBatch database.interactions recordIds).recordIds) := by
  refine ⟨h.1, fun messageId hstart => ?_⟩
  obtain (hdeleted | ⟨saved, hsaved, hin⟩) | ⟨houtgoing, hin⟩ := h.2 messageId hstart
  · exact Or.inl (Or.inl (List.mem_append_left _ hdeleted))
  · exact Or.inl (Or.inr ⟨saved, List.mem_append_left _ hsaved, hin⟩)
  · obtain ⟨interaction, hlookup, hkind⟩ := houtgoing
    cases interaction with
    | other archive => cases hkind
    | outgoing message saved =>
        obtain hleft | hsaved := ResaveBatch.mem_resaveBatch hin hlookup
        · exact Or.inr ⟨⟨_, ResaveBatch.lookup_resaveBatch.trans hlookup, rfl⟩, hleft⟩
        · exact Or.inl (Or.inr ⟨_, List.mem_append_right _ (List.mem_singleton_self _), hsaved⟩)

/-- **A step of the migration under way**, or beside it, keeps what is so of it at its phase. -/
theorem PhaseEffect.step
    (h : PhaseEffect atStart migration second world.database phase)
    (hbefore : world.launch = .runUp migration phase migrations)
    (hafter : world'.launch = .runUp migration phase' migrations)
    (hstep : Step world event world') :
    PhaseEffect atStart migration (second ++ [event]) world'.database phase' := by
  -- Both launches are in the run of the same migration; the steps that begin or end one are not.
  cases hstep with
  | launch | noMoreMigrations | complete | skip hrun | start isRegistered hasLocalNumber hrun =>
      cases hbefore
  | kill hrunning | finish => cases hafter
  | transaction =>
      cases hbefore
      cases hafter
      have hlast : .transaction migration ∈ second ++ [.transaction migration] :=
        List.mem_append_right _ (List.mem_singleton_self _)
      -- The migrations that override `runUp` have no transaction.
      cases migration with
      | enableVideoCalling | ensureProfileComplete | outgoingMessageState | udAttributes
      | typingIndicators => cases h
      | _ => exact hlast
  | attributesSent succeeds =>
      cases hbefore
      cases hafter
      cases succeeds with
      | true => trivial
      | false => trivial
  | profileFetched outcome =>
      cases hbefore
      cases hafter
      -- Only the outcome that is handled by making pre keys asks for pre keys to be accepted.
      have hnot : outcome ≠ .invalidIdentityKey →
          .profileFetched .invalidIdentityKey ∉ second ++ [.profileFetched outcome] := by
        intro hother hin
        obtain hin | heq := List.mem_append.mp hin
        · exact h.2 hin
        · cases List.mem_singleton.mp heq
          exact hother rfl
      cases outcome with
      | complete | unauthorized => exact fun hin => absurd hin (hnot fun h => by cases h)
      | invalidIdentityKey => rfl
      | otherError => trivial
  | preKeysStored signedPreKeyId =>
      cases hbefore
      cases hafter
      rfl
  | preKeysAccepted =>
      cases hbefore
      cases hafter
      exact fun _ => List.mem_append_right _ (List.mem_singleton_self _)
  | preKeysFailed | record =>
      cases hbefore
      cases hafter
      trivial
  | collect recordIds hkeys =>
      cases hbefore
      cases hafter
      refine phaseEffect_ofRecordIds ⟨rfl, fun messageId hstart => ?_⟩
      obtain hdeleted | houtgoing := h.2 messageId hstart
      · exact Or.inl (Or.inl (List.mem_append_left _ hdeleted))
      · refine Or.inr ⟨houtgoing, ?_⟩
        -- Every message there is is in the list of ids.
        obtain ⟨interaction, hlookup, -⟩ := houtgoing
        exact hkeys.mem_iff.mpr (AList.lookup_isSome.mp (by rw [hlookup]; rfl))
  | resave =>
      cases hbefore
      cases hafter
      exact phaseEffect_ofRecordIds (phaseEffect_resave h)
  | requestAttributesUpdate | disableTypingIndicators =>
      cases hbefore
      cases hafter
      exact List.mem_append_right _ (List.mem_singleton_self _)
  -- What follows happens beside the migration, which stays at its phase.
  | insert key message hnew saved =>
      cases hbefore.symm.trans hafter
      exact h.other (fun h => by cases h) fun _ hold => Or.inr (isOutgoing_insert hold)
  | change key message hold saved =>
      cases hbefore.symm.trans hafter
      exact h.other (fun h => by cases h) fun _ hold => Or.inr (isOutgoing_insert hold)
  | delete key hold =>
      cases hbefore.symm.trans hafter
      exact h.other (fun h => by cases h) fun _ hold => isOutgoing_erase hold
  | attributesUpdated =>
      cases hbefore.symm.trans hafter
      exact h.other (fun h => by cases h) fun _ hold => Or.inr hold

theorem Step.runUp_before (hstep : Step world event world')
    (hafter : world'.launch = .runUp migration phase' migrations) :
    (∃ phase, world.launch = .runUp migration phase migrations ∧ event ≠ .launch) ∨
      ∃ isRegistered hasLocalNumber,
        event = .start migration isRegistered hasLocalNumber ∧
          phase' = migration.runUp isRegistered hasLocalNumber ∧
          world.database = world'.database := by
  cases hstep with
  | launch => cases hafter
  | kill hrunning => cases hafter
  | noMoreMigrations => cases hafter
  | complete => cases hafter
  | skip hrun => cases hafter
  | finish => cases hafter
  | start isRegistered hasLocalNumber hrun =>
      cases hafter
      exact Or.inr ⟨isRegistered, hasLocalNumber, rfl, rfl, rfl⟩
  | insert key message hnew saved => exact Or.inl ⟨phase', hafter, fun h => by cases h⟩
  | change key message hold saved => exact Or.inl ⟨phase', hafter, fun h => by cases h⟩
  | delete key hold => exact Or.inl ⟨phase', hafter, fun h => by cases h⟩
  | attributesUpdated => exact Or.inl ⟨phase', hafter, fun h => by cases h⟩
  | _ =>
      cases hafter
      exact Or.inl ⟨_, rfl, fun h => by cases h⟩

theorem phaseEffect_of_run {start : MigrationWorld} (hstart : start.launch = .notRunning)
    (run : LabelledRun Step start labels world)
    (hlaunch : world.launch = .runUp migration phase migrations) :
    ∃ first isRegistered hasLocalNumber second s₀ s₁,
      labels = first ++ .start migration isRegistered hasLocalNumber :: second ∧
      LabelledRun Step start first s₀ ∧
      Step s₀ (.start migration isRegistered hasLocalNumber) s₁ ∧
      LabelledRun Step s₁ second world ∧ .launch ∉ second ∧
      PhaseEffect s₀.database migration second world.database phase := by
  induction run generalizing phase with
  | refl => cases hstart.symm.trans hlaunch
  | @tail labels event before after run last ih =>
      obtain ⟨phase₀, hbefore, hevent⟩ | ⟨isRegistered, hasLocalNumber, rfl, rfl, hsame⟩ :=
        last.runUp_before hlaunch
      · obtain ⟨first, isRegistered, hasLocalNumber, second, s₀, s₁, rfl, run₀, hfirst, run₁,
          hnot, heffect⟩ := ih hbefore
        refine ⟨first, isRegistered, hasLocalNumber, second ++ [event], s₀, s₁, ?_, run₀, hfirst,
          .tail run₁ last, ?_, heffect.step hbefore hlaunch last⟩
        · rw [List.append_assoc, List.cons_append]
        · intro hin
          obtain hin | heq := List.mem_append.mp hin
          · exact hnot hin
          · exact hevent (List.mem_singleton.mp heq).symm
      · refine ⟨labels, isRegistered, hasLocalNumber, [], before, after, rfl, run, last, .refl,
          List.not_mem_nil, ?_⟩
        rw [← hsame]
        exact phaseEffect_runUp _ _ _ _

/-! ## What is recorded -/

theorem find?_migrationId (migration : OWSDatabaseMigration) :
    (allMigrations.find? fun migration' => migration'.migrationId == migration.migrationId) =
      some migration := by
  cases migration with
  | _ => decide

theorem migrationId_injective {migration migration' : OWSDatabaseMigration}
    (h : migration.migrationId = migration'.migrationId) : migration = migration' := by
  have hfind := find?_migrationId migration
  rw [h, find?_migrationId] at hfind
  exact (Option.some.inj hfind).symm

theorem hasRun_save {migration' : OWSDatabaseMigration} :
    (database.save migration').HasRun migration ↔
      database.HasRun migration ∨ migration = migration' := by
  unfold MigratedDatabase.HasRun MigratedDatabase.save
  rw [List.mem_cons]
  constructor
  · rintro (heq | hin)
    · exact Or.inr (migrationId_injective heq)
    · exact Or.inl (List.mem_of_mem_erase hin)
  · rintro (hin | rfl)
    · by_cases heq : migration.migrationId = migration'.migrationId
      · exact Or.inl heq
      · exact Or.inr ((List.mem_erase_of_ne heq).mpr hin)
    · exact Or.inl rfl

/-- The transactions of migrations neither record one nor change a message. -/
theorem runUpWithTransaction_keeps :
    (database.runUpWithTransaction migration).migrations = database.migrations ∧
      (database.runUpWithTransaction migration).interactions = database.interactions := by
  cases migration with
  | _ => exact ⟨rfl, rfl⟩

/-- **What a step records**: what was recorded, and the migration that the step is for. -/
theorem Step.hasRun_iff (hstep : Step world event world') :
    world'.database.HasRun migration ↔
      world.database.HasRun migration ∨ event = .record migration := by
  have hnot : event ≠ .record migration →
      world'.database.migrations = world.database.migrations →
      (world'.database.HasRun migration ↔
        world.database.HasRun migration ∨ event = .record migration) := by
    intro hevent hsame
    rw [MigratedDatabase.HasRun, hsame, MigratedDatabase.HasRun, or_iff_left hevent]
  cases hstep with
  | record =>
      rw [hasRun_save]
      constructor
      · exact Or.imp_right fun heq => congrArg _ heq.symm
      · exact Or.imp_right fun heq => by cases heq; rfl
  | transaction => exact hnot (fun h => by cases h) runUpWithTransaction_keeps.1
  | _ => exact hnot (fun h => by cases h) rfl

/-- What has been recorded, in this launch or another, stays so. -/
theorem hasRun_of_run {start : MigrationWorld} (run : LabelledRun Step start labels world)
    (h : .record migration ∈ labels ∨ start.database.HasRun migration) :
    world.database.HasRun migration := by
  induction run with
  | refl =>
      obtain hin | hrun := h
      · cases hin
      · exact hrun
  | tail run last ih =>
      obtain hin | hrun := h
      · obtain hin | heq := List.mem_append.mp hin
        · exact last.hasRun_iff.mpr (Or.inl (ih (Or.inl hin)))
        · exact last.hasRun_iff.mpr (Or.inr (List.mem_singleton.mp heq).symm)
      · exact last.hasRun_iff.mpr (Or.inl (ih (Or.inr hrun)))

/-- **No step but those beside the migrations changes a message.** -/
theorem Step.lookup_interactions (hstep : Step world event world')
    (hevent : event.isOfMessage = false) :
    world'.database.interactions.lookup messageId =
      world.database.interactions.lookup messageId := by
  cases hstep with
  | transaction => exact congrArg (AList.lookup messageId) runUpWithTransaction_keeps.2
  | resave => exact ResaveBatch.lookup_resaveBatch
  | insert key message hnew saved => cases hevent
  | change key message hold saved => cases hevent
  | delete key hold => cases hevent
  | _ => rfl

/-! ## Completion -/

/-- What is left to do at a phase; a batch makes the ids fewer. -/
def phaseRank : MigrationPhase → ℕ ×ₗ ℕ
  | .profileRequest => toLex (4, 0)
  | .preKeysCreation | .collection => toLex (3, 0)
  | .transaction | .attributesRequest | .preKeysRequest _ | .attributesUpdate
  | .typingIndicatorsOff => toLex (2, 0)
  | .batches recordIds => toLex (2, recordIds.length)
  | .save => toLex (1, 0)
  | .completion => toLex (0, 0)

def launchRank : MigrationLaunch → ℕ ×ₗ (ℕ ×ₗ ℕ)
  | .notRunning | .completed => toLex (0, toLex (0, 0))
  | .completing => toLex (1, toLex (0, 0))
  | .runMigrations migrations => toLex (2 * migrations.length + 2, toLex (0, 0))
  | .runUp _ phase migrations => toLex (2 * migrations.length + 3, phaseRank phase)

theorem launchRank_lt_of_phase (h : phaseRank phase' < phaseRank phase) :
    launchRank (.runUp migration phase' migrations) <
      launchRank (.runUp migration phase migrations) :=
  Prod.Lex.toLex_lt_toLex.mpr (Or.inr ⟨rfl, h⟩)

theorem phaseRank_lt {a b c d : ℕ} (h : a < c ∨ a = c ∧ b < d) :
    (toLex (a, b) : ℕ ×ₗ ℕ) < toLex (c, d) :=
  Prod.Lex.toLex_lt_toLex.mpr h

/-- Ids that have become fewer, or none. -/
theorem phaseRank_ofRecordIds_lt {recordIds recordIds' : List String}
    (h : recordIds'.length < recordIds.length ∨ recordIds' = []) :
    phaseRank (.ofRecordIds recordIds') < phaseRank (.batches recordIds) := by
  cases recordIds' with
  | nil => exact phaseRank_lt (Or.inl (by decide))
  | cons recordId rest =>
      obtain hfewer | hnone := h
      · exact phaseRank_lt (Or.inr ⟨rfl, hfewer⟩)
      · cases hnone

section

variable (hstep : Step world event world')
include hstep

/-- **Each step of a launch leaves less to do in it.** -/
theorem Step.launchRank_lt (h : event.isOfLaunch = true) :
    launchRank world'.launch < launchRank world.launch := by
  cases hstep with
  | launch => cases h
  | kill hrunning => cases h
  | insert key message hnew saved => cases h
  | change key message hold saved => cases h
  | delete key hold => cases h
  | attributesUpdated => cases h
  | noMoreMigrations => exact Prod.Lex.toLex_lt_toLex.mpr (Or.inl (by decide))
  | complete => exact Prod.Lex.toLex_lt_toLex.mpr (Or.inl (by decide))
  | skip hrun =>
      refine Prod.Lex.toLex_lt_toLex.mpr (Or.inl ?_)
      show 2 * _ + 2 < 2 * (_ + 1) + 2
      omega
  | start isRegistered hasLocalNumber hrun =>
      refine Prod.Lex.toLex_lt_toLex.mpr (Or.inl ?_)
      show 2 * _ + 3 < 2 * (_ + 1) + 2
      omega
  | finish => exact Prod.Lex.toLex_lt_toLex.mpr (Or.inl (Nat.lt_succ_self _))
  | profileFetched outcome =>
      refine launchRank_lt_of_phase ?_
      cases outcome with
      | _ => exact phaseRank_lt (Or.inl (by decide))
  | attributesSent succeeds =>
      refine launchRank_lt_of_phase ?_
      cases succeeds with
      | _ => exact phaseRank_lt (Or.inl (by decide))
  | collect recordIds hkeys =>
      refine launchRank_lt_of_phase ?_
      cases recordIds with
      | _ => exact phaseRank_lt (Or.inl (by decide))
  | @resave database migrations recordIds =>
      refine launchRank_lt_of_phase (phaseRank_ofRecordIds_lt ?_)
      have hlength := @ResaveBatch.length_resaveBatch database.interactions recordIds
      cases recordIds with
      | nil => exact Or.inr (List.length_eq_zero_iff.mp (hlength.trans (Nat.zero_sub _)))
      | cons recordId rest =>
          refine Or.inl (hlength ▸ ?_)
          exact Nat.sub_lt (Nat.zero_lt_succ _) (by decide)
  | _ => exact launchRank_lt_of_phase (phaseRank_lt (Or.inl (by decide)))

theorem Step.launch_eq (h : event.isOfLaunch = false) (hkill : event ≠ .kill)
    (hlaunch : world.launch ≠ .notRunning) : world'.launch = world.launch := by
  cases hstep with
  | launch => exact absurd rfl hlaunch
  | kill hrunning => exact absurd rfl hkill
  | insert key message hnew saved => rfl
  | change key message hold saved => rfl
  | delete key hold => rfl
  | attributesUpdated => rfl
  | _ => cases h

theorem Step.launch_ne_notRunning (hkill : event ≠ .kill) (hlaunch : world.launch ≠ .notRunning) :
    world'.launch ≠ .notRunning := by
  cases hstep with
  | kill hrunning => exact absurd rfl hkill
  | insert key message hnew saved => exact hlaunch
  | change key message hold saved => exact hlaunch
  | delete key hold => exact hlaunch
  | attributesUpdated => exact hlaunch
  | _ => exact fun h => by cases h

theorem Step.completed_iff (hkill : event ≠ .kill) :
    world'.launch = .completed ↔ world.launch = .completed ∨ event = .complete := by
  cases hstep with
  | kill hrunning => exact absurd rfl hkill
  | complete => exact iff_of_true rfl (Or.inr rfl)
  | insert key message hnew saved => exact (or_iff_left fun h => by cases h).symm
  | change key message hold saved => exact (or_iff_left fun h => by cases h).symm
  | delete key hold => exact (or_iff_left fun h => by cases h).symm
  | attributesUpdated => exact (or_iff_left fun h => by cases h).symm
  | _ => exact iff_of_false (fun h => by cases h) fun h => by rcases h with h | h <;> cases h

end

/-! A launch that is not killed, from the step that begins it. -/

section

variable {worlds : ℕ → MigrationWorld} {events : ℕ → MigrationEvent}
  (hstep : ∀ n, Step (worlds n) (events n) (worlds (n + 1))) (hkill : ∀ n, events n ≠ .kill)
include hstep hkill

theorem launch_ne_notRunning (hlaunch : events 0 = .launch) (n : ℕ) :
    (worlds (n + 1)).launch ≠ .notRunning := by
  induction n with
  | zero =>
      have hfirst := hstep 0
      rw [hlaunch] at hfirst
      generalize worlds 0 = before, worlds 1 = after at hfirst
      cases hfirst
      exact fun h => by cases h
  | succ n ih => exact (hstep (n + 1)).launch_ne_notRunning (hkill _) ih

theorem completed_of_le {n k : ℕ} (hk : n ≤ k)
    (hcompleted : (worlds n).launch = .completed) : (worlds k).launch = .completed := by
  induction k, hk using Nat.le_induction with
  | base => exact hcompleted
  | succ k hk ih => exact ((hstep k).completed_iff (hkill k)).mpr (Or.inl ih)

/-- **The launch comes to its end**: what is left to do in it is never more, and becomes less each
time it goes on. -/
theorem exists_completed (hlaunch : events 0 = .launch)
    (hgoes : ∀ n, (worlds n).launch ≠ .completed →
      ∃ k, n ≤ k ∧ (events k).isOfLaunch = true) :
    ∃ n, (worlds (n + 1)).launch = .completed := by
  obtain ⟨n, -, hn⟩ := @eventually_of_rank _ _ _ (fun n => launchRank (worlds (n + 1)).launch)
    (fun n => (worlds (n + 1)).launch = .completed)
    (fun n _ => by
      cases hof : (events (n + 1)).isOfLaunch with
      | true => exact le_of_lt ((hstep (n + 1)).launchRank_lt hof)
      | false => exact le_of_eq (congrArg launchRank ((hstep (n + 1)).launch_eq hof (hkill _)
          (launch_ne_notRunning hstep hkill hlaunch n))))
    (fun n hnot => by
      obtain ⟨k, hk, hof⟩ := hgoes (n + 1) hnot
      obtain ⟨k, rfl⟩ := Nat.exists_eq_add_of_le' (Nat.le_trans (Nat.le_add_left 1 n) hk)
      exact ⟨k, by omega, Or.inr ((hstep (k + 1)).launchRank_lt hof)⟩) 0
  exact ⟨n, hn⟩

/-- A launch that has come to its end has called the completion. -/
theorem exists_complete (hlaunch : events 0 = .launch) {n : ℕ}
    (hn : (worlds (n + 1)).launch = .completed) : ∃ n, events n = .complete := by
  induction n with
  | zero =>
      obtain hbefore | hevent := ((hstep 0).completed_iff (hkill 0)).mp hn
      · -- The launch begins in a process that is not running.
        have hfirst := hstep 0
        rw [hlaunch] at hfirst
        generalize worlds 0 = before, worlds 1 = after at hfirst hbefore
        cases hfirst
        cases hbefore
      · exact ⟨0, hevent⟩
  | succ n ih =>
      obtain hbefore | hevent := ((hstep (n + 1)).completed_iff (hkill _)).mp hn
      · exact ih hbefore
      · exact ⟨n + 1, hevent⟩

theorem ne_complete_of_lt {n k : ℕ} (hlt : n < k) (hn : events n = .complete) :
    events k ≠ .complete := by
  intro hk
  have hafter := ((hstep n).completed_iff (hkill n)).mpr (Or.inr hn)
  have hbefore := completed_of_le hstep hkill hlt hafter
  have hlast := hstep k
  rw [hk] at hlast
  generalize worlds k = before, worlds (k + 1) = after at hlast hbefore
  cases hlast
  cases hbefore

/-- **A launch that is not killed, and goes on as long as it has not completed, calls the
completion once.** -/
theorem existsUnique_complete (hlaunch : events 0 = .launch)
    (hgoes : ∀ n, (worlds n).launch ≠ .completed →
      ∃ k, n ≤ k ∧ (events k).isOfLaunch = true) :
    ∃ n, events n = .complete ∧ ∀ k, events k = .complete → k = n := by
  obtain ⟨last, hend⟩ := exists_completed hstep hkill hlaunch hgoes
  obtain ⟨n, hn⟩ := exists_complete hstep hkill hlaunch hend
  refine ⟨n, hn, fun k hk => ?_⟩
  obtain hlt | heq | hlt := Nat.lt_trichotomy k n
  · exact absurd hn (ne_complete_of_lt hstep hkill hlt hk)
  · exact heq
  · exact absurd hk (ne_complete_of_lt hstep hkill hlt hn)

end

theorem exists_step {start : MigrationWorld} (hstart : start.launch = .notRunning)
    (run : LabelledRun Step start labels world) (hrunning : world.launch ≠ .notRunning)
    (hcompleted : world.launch ≠ .completed) :
    ∃ event world', event.isOfLaunch = true ∧ Step world event world' := by
  obtain ⟨database, launch⟩ := world
  cases launch with
  | notRunning => exact absurd rfl hrunning
  | completed => exact absurd rfl hcompleted
  | completing => exact ⟨_, _, rfl, .complete⟩
  | runMigrations migrations =>
      cases migrations with
      | nil => exact ⟨_, _, rfl, .noMoreMigrations⟩
      | cons migration migrations =>
          by_cases hrun : database.HasRun migration
          · exact ⟨_, _, rfl, .skip hrun⟩
          · exact ⟨.start migration true true, _, rfl, .start true true hrun⟩
  | runUp migration phase migrations =>
      obtain ⟨_, _, _, _, _, _, -, -, -, -, -, heffect⟩ := phaseEffect_of_run hstart run rfl
      cases phase with
      | transaction => exact ⟨_, _, rfl, .transaction⟩
      | save => exact ⟨_, _, rfl, .record⟩
      | completion => exact ⟨_, _, rfl, .finish⟩
      | attributesRequest =>
          cases heffect
          exact ⟨.attributesSent true, _, rfl, .attributesSent true⟩
      | profileRequest =>
          cases heffect.1
          exact ⟨.profileFetched .complete, _, rfl, .profileFetched .complete⟩
      | preKeysCreation =>
          cases heffect
          exact ⟨.preKeysStored 0, _, rfl, .preKeysStored 0⟩
      | preKeysRequest signedPreKeyId =>
          cases heffect
          exact ⟨.preKeysSent true, _, rfl, .preKeysAccepted⟩
      | collection =>
          cases heffect.1
          exact ⟨.collect database.interactions.keys, _, rfl, .collect _ (.refl _)⟩
      | batches recordIds =>
          cases heffect.1
          exact ⟨_, _, rfl, .resave⟩
      | attributesUpdate =>
          cases heffect
          exact ⟨_, _, rfl, .requestAttributesUpdate⟩
      | typingIndicatorsOff =>
          cases heffect
          exact ⟨_, _, rfl, .disableTypingIndicators⟩

/-- Each step is as it should be. -/
theorem orderly_of_run {first : MigratedDatabase}
    (run : LabelledRun Step ⟨first, .notRunning⟩ earlier world)
    (hstep : Step world event world') : Orderly first earlier world event world' := by
  have hordered : Ordered earlier world.launch := by
    refine @invariant _ _ _ _ _ _ (fun labels (world : MigrationWorld) =>
      Ordered labels world.launch) run trivial ?_
    exact fun _ _ _ _ h hstep => h.step hstep
  refine ⟨?_, ?_, ?_, ?_, fun _ => hstep.hasRun_iff.mp, fun h _ => hstep.lookup_interactions h⟩
  · rintro migration isRegistered hasLocalNumber rfl
    cases hstep with
    | start _ _ hrun =>
        obtain ⟨done, hdone, hprogress⟩ := hordered
        have hstarted : (startedSince earlier).Sublist done := by
          simpa using hprogress.started
        rw [← hdone]
        exact hstarted.append ((List.nil_sublist _).cons_cons migration)
  · rintro migration isRegistered hasLocalNumber rfl migration' hin
    cases hstep with
    | start _ _ hrun =>
        obtain ⟨done, hdone, hprogress⟩ := hordered
        exact hprogress.finished migration' hin fun h => by cases h
  · rintro migration isRegistered hasLocalNumber rfl
    cases hstep with
    | start _ _ hrun =>
        exact ⟨fun hin => hrun (hasRun_of_run run (Or.inl hin)),
          fun hfirst => hrun (hasRun_of_run run (Or.inr hfirst))⟩
  · rintro rfl
    cases hstep with
    | complete => exact hordered

/-- **Migrations run in order and resume**, whatever is stored first. -/
theorem migrationsResume (first : MigratedDatabase) : MigrationsResume first where
  orderly _ _ _ _ run hstep := orderly_of_run run hstep
  committed earlier before migration after run hstep := by
    cases hstep with
    | record => exact phaseEffect_of_run rfl run rfl
  notStuck _ _ run := exists_step rfl run
  completes _ _ hstep hlaunch hkill := existsUnique_complete hstep hkill hlaunch

end MigrationWorld

end ObjcSwiftLearning.SignalMessaging
