import ObjcSwiftLearning.SignalServiceKit.DisappearingMessages

/-!
# Disappearing messages go when they are due

What the index of the finder has is what the job acts on.  A run deletes the messages that
the index has as expired, and no other interaction; and as long as the app is active, each
message with a positive time in the index is **covered**: it is in a request that the main
queue has yet to answer, or a run that will look for the next message is outstanding, or the
wake-up has been asked for a date by then.

* `ExpirationDatabase.Consistent` — the index has of a message what the message says.
* `ExpirationDatabase.lookup_deleteExpiredMessages` — what a run deletes.
* `DisappearingMessagesJob.Scheduled` — the invariant; `Step.scheduled` keeps it.
* `DisappearingMessagesJob.disappearing_messages_on_time` — a run deletes what is due, and an
  idle job has its wake-up set in time.
* `DisappearingMessagesJob.expired_message_stays` — a message outside the index stays.
-/

namespace ObjcSwiftLearning.SignalServiceKit

/-! ## Signed numbers -/

/-- A positive column holds the number itself. -/
theorem toNat_eq_signed {n : UInt64} (h : 0 < signed n) : (n.toNat : ℤ) = signed n := by
  have hcond : signed n = n.toBitVec.toInt := rfl
  rw [BitVec.toInt_eq_toNat_cond] at hcond
  have hlt := n.toBitVec.isLt
  have hnat : n.toNat = n.toBitVec.toNat := rfl
  split at hcond <;> omega

theorem pos_of_signed {n : UInt64} (h : 0 < signed n) : 0 < n := by
  have hnat := toNat_eq_signed h
  rw [UInt64.lt_iff_toNat_lt, UInt64.toNat_zero]
  omega

/-! ## The index -/

namespace TSMessage

variable {message : TSMessage}

theorem started_of_expiresAt_pos (h : 0 < message.expiresAt) :
    message.isExpiringMessage = true ∧ 0 < message.expireStartedAt := by
  rw [expiresAt] at h
  split at h
  · next hstarted => simpa [isExpiringMessage] using hstarted
  · exact absurd h (by decide)

/-- It is none that has been received with attachments. -/
def NothingToDownload (message : TSMessage) : Prop :=
  ∀ attachmentIds wasRead, message.kind = .incoming attachmentIds wasRead → attachmentIds = []

/-- A message that has a time to expire at, and nothing to be downloaded, may expire. -/
theorem shouldStart_of_expiresAt_pos {attachmentPointers : List String}
    (nothing : message.NothingToDownload) (hpos : 0 < signed message.expiresAt) :
    message.shouldStartExpireTimer attachmentPointers = true := by
  obtain ⟨hexpiring, hstarted⟩ := started_of_expiresAt_pos (pos_of_signed hpos)
  rw [shouldStartExpireTimer]
  cases hkind : message.kind with
  | incoming attachmentIds wasRead => simp [nothing attachmentIds wasRead hkind, hexpiring]
  | outgoing isSent => simp [hexpiring, hstarted]
  | other => exact hexpiring

end TSMessage

open TSMessage

namespace ExpirationDatabase

variable {database : ExpirationDatabase} {uniqueId other : String} {interaction : TSInteraction}
  {message : TSMessage} {expiresAt : ℤ} {now : UInt64} {uniqueIds : List String}

@[simp] theorem lookup_interactions_save :
    (database.save uniqueId interaction).interactions.lookup uniqueId = some interaction :=
  AList.lookup_insert _

theorem lookup_interactions_save_of_ne (h : other ≠ uniqueId) :
    (database.save uniqueId interaction).interactions.lookup other =
      database.interactions.lookup other :=
  AList.lookup_insert_ne h

@[simp] theorem lookup_expiresAtIndex_save :
    (database.save uniqueId interaction).expiresAtIndex.lookup uniqueId =
      database.indexRow interaction := by
  rw [save]
  cases database.indexRow interaction with
  | none => exact AList.lookup_erase ..
  | some expiresAt => exact AList.lookup_insert _

theorem lookup_expiresAtIndex_save_of_ne (h : other ≠ uniqueId) :
    (database.save uniqueId interaction).expiresAtIndex.lookup other =
      database.expiresAtIndex.lookup other := by
  rw [save]
  cases database.indexRow interaction with
  | none => exact AList.lookup_erase_ne h
  | some expiresAt => exact AList.lookup_insert_ne h

/-- The index has of a message what the message says, and has every message that has a time to
expire at, unless it has been received with attachments. -/
structure Consistent (database : ExpirationDatabase) : Prop where
  row : ∀ uniqueId expiresAt, database.expiresAtIndex.lookup uniqueId = some expiresAt →
    ∃ message, database.interactions.lookup uniqueId = some (.message message) ∧
      expiresAt = signed message.expiresAt
  listed : ∀ uniqueId message,
    database.interactions.lookup uniqueId = some (.message message) →
      message.NothingToDownload → 0 < signed message.expiresAt →
        database.expiresAtIndex.lookup uniqueId = some (signed message.expiresAt)

theorem indexRow_eq_some (h : database.indexRow interaction = some expiresAt) :
    ∃ message, interaction = .message message ∧ expiresAt = signed message.expiresAt := by
  cases interaction with
  | other => cases h
  | message message =>
      rw [indexRow] at h
      split at h
      · cases h
        exact ⟨message, rfl, rfl⟩
      · cases h

theorem Consistent.save (h : database.Consistent) :
    (database.save uniqueId interaction).Consistent where
  row other expiresAt hrow := by
    by_cases heq : other = uniqueId
    · subst heq
      rw [lookup_expiresAtIndex_save] at hrow
      obtain ⟨message, rfl, hexpires⟩ := indexRow_eq_some hrow
      exact ⟨message, lookup_interactions_save, hexpires⟩
    · rw [lookup_expiresAtIndex_save_of_ne heq] at hrow
      rw [lookup_interactions_save_of_ne heq]
      exact h.row other expiresAt hrow
  listed other message hmessage nothing hpos := by
    by_cases heq : other = uniqueId
    · subst heq
      rw [lookup_interactions_save] at hmessage
      cases hmessage
      rw [lookup_expiresAtIndex_save, indexRow, if_pos (shouldStart_of_expiresAt_pos nothing hpos)]
    · rw [lookup_interactions_save_of_ne heq] at hmessage
      rw [lookup_expiresAtIndex_save_of_ne heq]
      exact h.listed other message hmessage nothing hpos

theorem Consistent.touch (h : database.Consistent) : (database.touch uniqueId).Consistent := by
  rw [ExpirationDatabase.touch]
  split
  · next interaction stored =>
      have hsame (other : String) : (database.save uniqueId interaction).interactions.lookup other =
          database.interactions.lookup other := by
        by_cases heq : other = uniqueId
        · rw [heq, lookup_interactions_save, stored]
        · exact lookup_interactions_save_of_ne heq
      refine ⟨fun other expiresAt hrow => ?_, fun other message hmessage => ?_⟩
      · rw [← hsame other]
        exact h.save.row other expiresAt hrow
      · exact h.save.listed other message ((hsame other).trans hmessage)
  · exact h

/-- What the index has after a save that brings no time into it. -/
theorem exists_row_of_save
    (startNothing : ∀ expiresAt, database.indexRow interaction = some expiresAt → 0 < expiresAt →
      ∃ earlier, database.expiresAtIndex.lookup uniqueId = some earlier ∧ 0 < earlier ∧
        earlier ≤ expiresAt)
    (hrow : (database.save uniqueId interaction).expiresAtIndex.lookup other = some expiresAt)
    (hpos : 0 < expiresAt) :
    ∃ other earlier, database.expiresAtIndex.lookup other = some earlier ∧ 0 < earlier ∧
      earlier ≤ expiresAt := by
  by_cases heq : other = uniqueId
  · rw [heq, lookup_expiresAtIndex_save] at hrow
    exact ⟨uniqueId, startNothing expiresAt hrow hpos⟩
  · rw [lookup_expiresAtIndex_save_of_ne heq] at hrow
    exact ⟨other, expiresAt, hrow, hpos, Int.le_refl _⟩

theorem Consistent.remove (h : database.Consistent) : (database.remove uniqueId).Consistent where
  row other expiresAt hrow := by
    by_cases heq : other = uniqueId
    · subst heq
      rw [ExpirationDatabase.remove, AList.lookup_erase] at hrow
      cases hrow
    · rw [ExpirationDatabase.remove, AList.lookup_erase_ne heq] at hrow ⊢
      exact h.row other expiresAt hrow
  listed other message hmessage nothing hpos := by
    by_cases heq : other = uniqueId
    · subst heq
      rw [ExpirationDatabase.remove, AList.lookup_erase] at hmessage
      cases hmessage
    · rw [ExpirationDatabase.remove, AList.lookup_erase_ne heq] at hmessage ⊢
      exact h.listed other message hmessage nothing hpos

/-- Removing brings no row into the index. -/
theorem lookup_expiresAtIndex_of_remove
    (h : (database.remove uniqueId).expiresAtIndex.lookup other = some expiresAt) :
    database.expiresAtIndex.lookup other = some expiresAt := by
  by_cases heq : other = uniqueId
  · subst heq
    rw [ExpirationDatabase.remove, AList.lookup_erase] at h
    cases h
  · rwa [ExpirationDatabase.remove, AList.lookup_erase_ne heq] at h

theorem Consistent.updateWithExpireStartedAt {expireStartedAt now : UInt64}
    (h : database.Consistent) :
    (database.updateWithExpireStartedAt uniqueId expireStartedAt now).Consistent := by
  rw [ExpirationDatabase.updateWithExpireStartedAt]
  split
  · exact h.save
  · exact h

/-! ### What a run deletes -/

/-- A message whose time has come by the job's own clock. -/
def IsExpired (database : ExpirationDatabase) (now : UInt64) (uniqueId : String) : Prop :=
  ∃ message, database.interactions.lookup uniqueId = some (.message message) ∧
    message.expiresAt ≤ now

theorem lookup_deleteIfExpired_of_ne {now : UInt64} (h : other ≠ uniqueId) :
    (deleteIfExpired now database uniqueId).interactions.lookup other =
      database.interactions.lookup other := by
  rw [deleteIfExpired]
  split
  · split
    · rfl
    · exact AList.lookup_erase_ne h
  · rfl

theorem lookup_deleteIfExpired_self (h : database.IsExpired now uniqueId) :
    (deleteIfExpired now database uniqueId).interactions.lookup uniqueId = none := by
  obtain ⟨message, hmessage, hexpired⟩ := h
  rw [deleteIfExpired, hmessage]
  dsimp only
  rw [if_neg (UInt64.not_lt.mpr hexpired)]
  exact AList.lookup_erase ..

theorem deleteIfExpired_of_not (h : ¬database.IsExpired now uniqueId) :
    deleteIfExpired now database uniqueId = database := by
  rw [deleteIfExpired]
  split
  · next message hmessage =>
      split
      · rfl
      · next hlt => exact absurd ⟨message, hmessage, UInt64.not_lt.mp hlt⟩ h
  · rfl

/-- After some ids have been gone through, what is none of them, or has not expired, is
there. -/
theorem lookup_foldl_deleteIfExpired_of_not
    (h : ¬(uniqueId ∈ uniqueIds ∧ database.IsExpired now uniqueId)) :
    (uniqueIds.foldl (deleteIfExpired now) database).interactions.lookup uniqueId =
      database.interactions.lookup uniqueId := by
  induction uniqueIds generalizing database with
  | nil => rfl
  | cons first uniqueIds ih =>
      rw [List.foldl_cons]
      by_cases heq : uniqueId = first
      · subst heq
        have hexpired : ¬database.IsExpired now uniqueId :=
          fun hexpired => h ⟨List.mem_cons_self .., hexpired⟩
        rw [deleteIfExpired_of_not hexpired]
        exact ih fun hboth => hexpired hboth.2
      · have hsame := @lookup_deleteIfExpired_of_ne database first uniqueId now heq
        rw [ih, hsame]
        rw [IsExpired, hsame]
        exact fun hboth => h ⟨List.mem_cons_of_mem _ hboth.1, hboth.2⟩

theorem lookup_foldl_deleteIfExpired (hmem : uniqueId ∈ uniqueIds)
    (h : database.IsExpired now uniqueId) :
    (uniqueIds.foldl (deleteIfExpired now) database).interactions.lookup uniqueId = none := by
  induction uniqueIds generalizing database with
  | nil => cases hmem
  | cons first uniqueIds ih =>
      rw [List.foldl_cons]
      by_cases hlater : uniqueId ∈ uniqueIds
      · by_cases heq : uniqueId = first
        · subst heq
          rw [lookup_foldl_deleteIfExpired_of_not]
          · exact lookup_deleteIfExpired_self h
          · rintro ⟨-, message, hmessage, -⟩
            rw [lookup_deleteIfExpired_self h] at hmessage
            cases hmessage
        · refine ih hlater ?_
          rw [IsExpired, lookup_deleteIfExpired_of_ne heq]
          exact h
      · obtain rfl | hmem := List.mem_cons.mp hmem
        · rw [lookup_foldl_deleteIfExpired_of_not fun hboth => hlater hboth.1]
          exact lookup_deleteIfExpired_self h
        · exact absurd hmem hlater

/-- A message is due that the index has with a positive time, when the time has come by both
readings of the clock. -/
def IsDue (database : ExpirationDatabase) (now finderNow : UInt64) (uniqueId : String) : Prop :=
  ∃ message, database.interactions.lookup uniqueId = some (.message message) ∧
    database.expiresAtIndex.lookup uniqueId = some (signed message.expiresAt) ∧
      0 < signed message.expiresAt ∧ signed message.expiresAt ≤ signed finderNow ∧
        message.expiresAt ≤ now

/-- What is due is what the finder fetches and the job finds expired. -/
theorem isDue_iff {now finderNow : UInt64} (consistent : database.Consistent) :
    database.IsDue now finderNow uniqueId ↔
      uniqueId ∈ database.fetchExpiredMessageIds finderNow ∧ database.IsExpired now uniqueId := by
  rw [fetchExpiredMessageIds, AList.mem_keysWhere]
  constructor
  · rintro ⟨message, hmessage, hrow, hpos, hfinder, hexpired⟩
    exact ⟨⟨_, hrow, decide_eq_true ⟨hpos, hfinder⟩⟩, message, hmessage, hexpired⟩
  · rintro ⟨⟨expiresAt, hrow, hwhere⟩, message, hmessage, hexpired⟩
    obtain ⟨found, hfound, rfl⟩ := consistent.row uniqueId expiresAt hrow
    rw [hmessage] at hfound
    cases hfound
    rw [decide_eq_true_eq] at hwhere
    exact ⟨message, hmessage, hrow, hwhere.1, hwhere.2, hexpired⟩

/-- **A run deletes what is due**, and nothing else. -/
theorem lookup_deleteExpiredMessages {now finderNow : UInt64} (consistent : database.Consistent) :
    (database.IsDue now finderNow uniqueId →
      (database.deleteExpiredMessages now finderNow).interactions.lookup uniqueId = none) ∧
    (¬database.IsDue now finderNow uniqueId →
      (database.deleteExpiredMessages now finderNow).interactions.lookup uniqueId =
        database.interactions.lookup uniqueId) := by
  rw [isDue_iff consistent]
  exact ⟨fun hdue => lookup_foldl_deleteIfExpired hdue.1 hdue.2,
    lookup_foldl_deleteIfExpired_of_not⟩

theorem Consistent.foldl_deleteIfExpired (h : database.Consistent) (uniqueIds : List String) :
    (uniqueIds.foldl (deleteIfExpired now) database).Consistent := by
  induction uniqueIds generalizing database with
  | nil => exact h
  | cons first uniqueIds ih =>
      refine ih ?_
      by_cases hexpired : database.IsExpired now first
      · obtain ⟨message, hmessage, hle⟩ := hexpired
        rw [deleteIfExpired, hmessage]
        dsimp only
        rw [if_neg (UInt64.not_lt.mpr hle)]
        exact h.remove
      · rw [deleteIfExpired_of_not hexpired]
        exact h

theorem lookup_expiresAtIndex_of_foldl
    (h : (uniqueIds.foldl (deleteIfExpired now) database).expiresAtIndex.lookup uniqueId =
      some expiresAt) : database.expiresAtIndex.lookup uniqueId = some expiresAt := by
  induction uniqueIds generalizing database with
  | nil => exact h
  | cons first uniqueIds ih =>
      have hrow := ih h
      rw [deleteIfExpired] at hrow
      split at hrow
      · split at hrow
        · exact hrow
        · exact lookup_expiresAtIndex_of_remove hrow
      · exact hrow

/-! ### The next message -/

theorem firstExpiringRow_spec (rows : List (Σ _ : String, ℤ)) :
    (firstExpiringRow rows = none → ∀ row ∈ rows, ¬0 < row.snd) ∧
      ∀ first, firstExpiringRow rows = some first → first ∈ rows ∧ 0 < first.snd ∧
        ∀ row ∈ rows, 0 < row.snd → first.snd ≤ row.snd := by
  induction rows with
  | nil => simp [firstExpiringRow]
  | cons row rows ih =>
      obtain ⟨hnone, hsome⟩ := ih
      rw [firstExpiringRow]
      cases hfirst : firstExpiringRow rows with
      | none =>
          have hrest := hnone hfirst
          by_cases hpos : 0 < row.snd
          · simp only [if_pos hpos]
            refine ⟨by simp, ?_⟩
            rintro _ ⟨⟩
            refine ⟨List.mem_cons_self .., hpos, fun other hmem hother => ?_⟩
            rcases List.mem_cons.mp hmem with rfl | hmem
            · exact Int.le_refl _
            · exact absurd hother (hrest other hmem)
          · simp only [if_neg hpos]
            refine ⟨fun _ => ?_, by simp⟩
            exact List.forall_mem_cons.mpr ⟨hpos, hrest⟩
      | some next =>
          obtain ⟨hmem, hposNext, hleast⟩ := hsome next hfirst
          by_cases hbefore : 0 < row.snd ∧ row.snd ≤ next.snd
          · simp only [if_pos hbefore]
            refine ⟨by simp, ?_⟩
            rintro _ ⟨⟩
            refine ⟨List.mem_cons_self .., hbefore.1, fun other hother hpos => ?_⟩
            rcases List.mem_cons.mp hother with rfl | hother
            · exact Int.le_refl _
            · exact Int.le_trans hbefore.2 (hleast other hother hpos)
          · simp only [if_neg hbefore]
            refine ⟨by simp, ?_⟩
            rintro _ ⟨⟩
            refine ⟨List.mem_cons_of_mem _ hmem, hposNext, fun other hother hpos => ?_⟩
            rcases List.mem_cons.mp hother with rfl | hother
            · omega
            · exact hleast other hother hpos

/-- **The next message to expire** is no later than any that the index has. -/
theorem exists_nextExpirationTimestamp (consistent : database.Consistent)
    (hrow : database.expiresAtIndex.lookup uniqueId = some expiresAt) (hpos : 0 < expiresAt) :
    ∃ next, database.nextExpirationTimestamp = some next ∧ (next.toNat : ℤ) ≤ expiresAt := by
  have hmem := AList.mem_lookup_iff.mp hrow
  obtain ⟨hnone, hsome⟩ := firstExpiringRow_spec database.expiresAtIndex.entries
  rw [nextExpirationTimestamp]
  cases hfirst : firstExpiringRow database.expiresAtIndex.entries with
  | none => exact absurd hpos (hnone hfirst _ hmem)
  | some first =>
      obtain ⟨hfirstMem, hfirstPos, hleast⟩ := hsome first hfirst
      obtain ⟨message, hmessage, hexpires⟩ :=
        consistent.row first.fst first.snd (AList.mem_lookup_iff.mpr hfirstMem)
      have hle := hleast _ hmem hpos
      rw [hexpires] at hfirstPos hle
      refine ⟨message.expiresAt, ?_, ?_⟩
      · simp only [hmessage, if_pos (pos_of_signed hfirstPos)]
      · rw [toNat_eq_signed hfirstPos]
        exact hle

end ExpirationDatabase

open ExpirationDatabase

/-! ## What covers a message -/

def ExpirationMainBlock.date : ExpirationMainBlock → Option ℤ
  | .startIfNecessary => none
  | .expirationStarted expiresAt => some expiresAt.toNat
  | .scheduleRunByDate date => some date

namespace DisappearingMessagesJob

/-- A run by the time is asked for, will be, or has been. -/
def Covered (job : DisappearingMessagesJob) (expiresAt : ℤ) : Prop :=
  (∃ block ∈ job.mainQueue, ∃ date, block.date = some date ∧ date ≤ expiresAt) ∨
    .scheduleNextRun ∈ job.serialQueue ∨ job.nextDisappearance.Covers expiresAt

/-- **The invariant**: while the app is active, whatever the index has with a positive time is
covered. -/
structure Scheduled (job : DisappearingMessagesJob) : Prop where
  consistent : job.database.Consistent
  sound : job.nextDisappearance.Sound minDelayMilliseconds
  unset : job.isMainAppAndActive = false → job.nextDisappearance = .unset
  covered : job.isMainAppAndActive = true → ∀ uniqueId expiresAt,
    job.database.expiresAtIndex.lookup uniqueId = some expiresAt → 0 < expiresAt →
      job.Covered expiresAt

variable {job job' : DisappearingMessagesJob} {uniqueId other : String} {message : TSMessage}
  {expirationStartedAt now finderNow : UInt64} {expiresAt : ℤ}

/-- More blocks cover no less. -/
theorem Covered.mono (h : job.Covered expiresAt)
    (mainQueue : ∀ block ∈ job.mainQueue, block ∈ job'.mainQueue)
    (serialQueue : ∀ block ∈ job.serialQueue, block ∈ job'.serialQueue)
    (nextDisappearance : job'.nextDisappearance = job.nextDisappearance) :
    job'.Covered expiresAt := by
  rcases h with ⟨block, hmem, hdate⟩ | hserial | hcovers
  · exact .inl ⟨block, mainQueue block hmem, hdate⟩
  · exact .inr (.inl (serialQueue _ hserial))
  · rw [Covered, nextDisappearance]
    exact .inr (.inr hcovers)

/-- A change of the database alone, which brings no time into the index. -/
theorem Scheduled.of_database {database : ExpirationDatabase} (h : job.Scheduled)
    (consistent : database.Consistent)
    (rows : ∀ uniqueId expiresAt, database.expiresAtIndex.lookup uniqueId = some expiresAt →
      0 < expiresAt → ∃ other earlier,
        job.database.expiresAtIndex.lookup other = some earlier ∧ 0 < earlier ∧
          earlier ≤ expiresAt) :
    { job with database }.Scheduled where
  consistent := consistent
  sound := h.sound
  unset := h.unset
  covered hactive uniqueId expiresAt hrow hpos := by
    obtain ⟨other, earlier, hbefore, hposBefore, hle⟩ := rows uniqueId expiresAt hrow hpos
    rcases h.covered hactive other earlier hbefore hposBefore with
      ⟨block, hmem, date, hdate, hdateLe⟩ | hserial | hcovers
    · exact .inl ⟨block, hmem, date, hdate, Int.le_trans hdateLe hle⟩
    · exact .inr (.inl hserial)
    · exact .inr (.inr (hcovers.mono hle))

theorem Scheduled.of_queues (h : job.Scheduled) {mainQueue : List ExpirationMainBlock}
    {serialQueue : List ExpirationSerialBlock} {hasStarted : Bool}
    (main : ∀ block ∈ job.mainQueue, block ∈ mainQueue)
    (serial : ∀ block ∈ job.serialQueue, block ∈ serialQueue) :
    { job with mainQueue, serialQueue, hasStarted }.Scheduled where
  consistent := h.consistent
  sound := h.sound
  unset := h.unset
  covered hactive uniqueId expiresAt hrow hpos :=
    (h.covered hactive uniqueId expiresAt hrow hpos).mono main serial rfl

/-! ### Starting an expiration -/

/-- An object that does not expire starts nothing; another asks for a run. -/
theorem startAnyExpiration_eq (job : DisappearingMessagesJob) (uniqueId : String)
    (message : TSMessage) (expirationStartedAt now : UInt64) :
    ∃ database blocks, job.startAnyExpiration uniqueId message expirationStartedAt now =
      { job with database, mainQueue := job.mainQueue ++ blocks } ∧
        (database = job.database ∨
          database = job.database.updateWithExpireStartedAt uniqueId expirationStartedAt now) := by
  rw [startAnyExpiration]
  split
  · exact ⟨job.database, [], by simp, .inl rfl⟩
  · split
    · exact ⟨_, _, rfl, .inr rfl⟩
    · exact ⟨_, _, rfl, .inl rfl⟩

theorem setExpireStartedAt_of_starts
    (h : message.expireStartedAt = 0 ∨ expirationStartedAt < message.expireStartedAt) :
    message.setExpireStartedAt expirationStartedAt now =
      { message with expireStartedAt := min now expirationStartedAt } := by
  rw [TSMessage.setExpireStartedAt, if_neg]
  rintro ⟨hne, hlt⟩
  rcases h with hzero | hgt
  · exact hne hzero
  · exact absurd (UInt64.lt_trans hlt hgt) (UInt64.lt_irrefl _)

theorem covered_startAnyExpiration_stored (consistent : job.database.Consistent)
    (stored : job.database.interactions.lookup uniqueId = some (.message message))
    (hrow : (job.startAnyExpiration uniqueId message expirationStartedAt
      now).database.expiresAtIndex.lookup uniqueId = some expiresAt) (hpos : 0 < expiresAt) :
    (job.startAnyExpiration uniqueId message expirationStartedAt now).Covered expiresAt := by
  rw [startAnyExpiration] at hrow ⊢
  split at hrow
  · -- A time in the index needs a timer.
    next hnot =>
      obtain ⟨found, hfound, rfl⟩ := consistent.row uniqueId expiresAt hrow
      rw [stored] at hfound
      cases hfound
      have hexpiring := (started_of_expiresAt_pos (pos_of_signed hpos)).1
      simp [hexpiring] at hnot
  · next hexpiring =>
      rw [if_neg hexpiring]
      split at hrow
      · next hstarts =>
          rw [if_pos hstarts]
          simp only [updateWithExpireStartedAt, stored, lookup_expiresAtIndex_save] at hrow
          obtain ⟨found, hfound, rfl⟩ := indexRow_eq_some hrow
          cases hfound
          refine .inl ⟨_, List.mem_append_right _ (List.mem_singleton_self _), _, rfl, ?_⟩
          rw [toNat_eq_signed hpos]
      · next hkeeps =>
          rw [if_neg hkeeps]
          obtain ⟨found, hfound, rfl⟩ := consistent.row uniqueId expiresAt hrow
          rw [stored] at hfound
          cases hfound
          refine .inl ⟨_, List.mem_append_right _ (List.mem_singleton_self _), _, rfl, ?_⟩
          rw [toNat_eq_signed hpos]

theorem covered_startAnyExpiration_outgoing (consistent : job.database.Consistent)
    (latest : ∀ latest, job.database.interactions.lookup uniqueId = some (.message latest) →
      (∃ isSent, latest.kind = .outgoing isSent) ∧
        latest.expiresInSeconds = message.expiresInSeconds)
    (hrow : (job.startAnyExpiration uniqueId message expirationStartedAt
      now).database.expiresAtIndex.lookup uniqueId = some expiresAt) (hpos : 0 < expiresAt) :
    (job.startAnyExpiration uniqueId message expirationStartedAt now).Covered expiresAt ∨
      job.database.expiresAtIndex.lookup uniqueId = some expiresAt := by
  rw [startAnyExpiration] at hrow ⊢
  split at hrow
  · exact .inr hrow
  · next hexpiring =>
      rw [if_neg hexpiring]
      split at hrow
      · next hstarts =>
          rw [if_pos hstarts]
          dsimp only [updateWithExpireStartedAt] at hrow
          split at hrow
          · next found hfound =>
              obtain ⟨⟨isSent, hfoundKind⟩, hsame⟩ := latest found hfound
              rw [lookup_expiresAtIndex_save] at hrow
              obtain ⟨_, ⟨⟩, rfl⟩ := indexRow_eq_some hrow
              by_cases hlater :
                  found.expireStartedAt ≠ 0 ∧ found.expireStartedAt < expirationStartedAt
              · have hkept : found.setExpireStartedAt expirationStartedAt now = found := by
                  rw [TSMessage.setExpireStartedAt, if_pos hlater]
                rw [hkept] at hpos ⊢
                have nothing : found.NothingToDownload := by
                  intro attachmentIds wasRead hkind
                  rw [hfoundKind] at hkind
                  cases hkind
                exact .inr (consistent.listed uniqueId found hfound nothing hpos)
              · refine .inl (.inl
                  ⟨_, List.mem_append_right _ (List.mem_singleton_self _), _, rfl, ?_⟩)
                rw [← toNat_eq_signed hpos, setExpireStartedAt_of_starts hstarts,
                  TSMessage.setExpireStartedAt, if_neg hlater]
                simp only [TSMessage.expiresAt, hsame, Int.le_refl]
          · exact .inr hrow
      · exact .inr hrow

theorem scheduled_startAnyExpiration (consistent : job.database.Consistent)
    (sound : job.nextDisappearance.Sound minDelayMilliseconds)
    (unset : job.isMainAppAndActive = false → job.nextDisappearance = .unset)
    (others : job.isMainAppAndActive = true → ∀ other expiresAt, other ≠ uniqueId →
      job.database.expiresAtIndex.lookup other = some expiresAt → 0 < expiresAt →
        job.Covered expiresAt)
    (self : job.isMainAppAndActive = true → ∀ expiresAt,
      (job.startAnyExpiration uniqueId message expirationStartedAt
        now).database.expiresAtIndex.lookup uniqueId = some expiresAt → 0 < expiresAt →
          (job.startAnyExpiration uniqueId message expirationStartedAt now).Covered expiresAt) :
    (job.startAnyExpiration uniqueId message expirationStartedAt now).Scheduled := by
  obtain ⟨database, blocks, heq, hdatabase⟩ :=
    job.startAnyExpiration_eq uniqueId message expirationStartedAt now
  rw [heq] at self ⊢
  refine ⟨?_, sound, unset, fun hactive other expiresAt hrow hpos => ?_⟩
  · rcases hdatabase with rfl | rfl
    · exact consistent
    · exact consistent.updateWithExpireStartedAt
  · by_cases hself : other = uniqueId
    · subst hself
      exact self hactive expiresAt hrow hpos
    · have hbefore : job.database.expiresAtIndex.lookup other = some expiresAt := by
        rcases hdatabase with rfl | rfl
        · exact hrow
        · rw [ExpirationDatabase.updateWithExpireStartedAt] at hrow
          split at hrow
          · rwa [lookup_expiresAtIndex_save_of_ne hself] at hrow
          · exact hrow
      exact (others hactive other expiresAt hself hbefore hpos).mono
        (fun _ hmem => List.mem_append_left _ hmem) (fun _ hmem => hmem) rfl

section

variable (h : job.Scheduled)
include h

/-- **Starting an expiration** leaves the job scheduled. -/
theorem Scheduled.startAnyExpiration (startable : IsStartable job.database uniqueId message) :
    (job.startAnyExpiration uniqueId message expirationStartedAt now).Scheduled := by
  refine scheduled_startAnyExpiration h.consistent h.sound h.unset
    (fun hactive other expiresAt _ => h.covered hactive other expiresAt)
    fun hactive expiresAt hrow hpos => ?_
  rcases startable with latest | stored
  · rcases covered_startAnyExpiration_outgoing h.consistent latest hrow hpos with
      hcovered | hbefore
    · exact hcovered
    · obtain ⟨database, blocks, heq, -⟩ :=
        job.startAnyExpiration_eq uniqueId message expirationStartedAt now
      rw [heq]
      exact (h.covered hactive uniqueId expiresAt hbefore hpos).mono
        (fun _ hmem => List.mem_append_left _ hmem) (fun _ hmem => hmem) rfl
  · exact covered_startAnyExpiration_stored h.consistent stored hrow hpos

/-- **Saving an object and starting its expiration** does, too. -/
theorem Scheduled.saveAndStart :
    ({ job with
        database := job.database.save uniqueId (.message message) }.startAnyExpiration
      uniqueId message expirationStartedAt now).Scheduled := by
  refine scheduled_startAnyExpiration h.consistent.save h.sound h.unset
    (fun hactive other expiresAt hne hrow hpos => ?_) fun _ expiresAt hrow hpos => ?_
  · dsimp only at hrow
    rw [lookup_expiresAtIndex_save_of_ne hne] at hrow
    exact h.covered hactive other expiresAt hrow hpos
  · exact covered_startAnyExpiration_stored h.consistent.save lookup_interactions_save hrow hpos

/-! ### The blocks -/

theorem Scheduled.startFailedExpiration : (startFailedExpiration now job uniqueId).Scheduled := by
  rw [DisappearingMessagesJob.startFailedExpiration]
  split
  · next stored =>
      split
      · exact h.startAnyExpiration (.inr stored)
      · exact h
  · exact h

/-- The cleanup that `startIfNecessary` begins with. -/
theorem Scheduled.cleanup (uniqueIds : List String) :
    (uniqueIds.foldl (DisappearingMessagesJob.startFailedExpiration now) job).Scheduled := by
  induction uniqueIds generalizing job with
  | nil => exact h
  | cons first uniqueIds ih => exact ih h.startFailedExpiration

theorem Scheduled.runMainBlock {block : ExpirationMainBlock} {blocks : List ExpirationMainBlock}
    {now : ℤ} (first : job.mainQueue = block :: blocks) :
    ({ job with mainQueue := blocks }.runMainBlock now block).Scheduled := by
  -- What the block itself covers is the only thing that may be lost with it.
  have hwithout (expiresAt : ℤ) (hcovered : job.Covered expiresAt) :
      (∃ date, block.date = some date ∧ date ≤ expiresAt) ∨
        { job with mainQueue := blocks }.Covered expiresAt := by
    rcases hcovered with ⟨other, hmem, hdate⟩ | hserial | hcovers
    · rw [first] at hmem
      rcases List.mem_cons.mp hmem with rfl | hmem
      · exact .inl hdate
      · exact .inr (.inl ⟨other, hmem, hdate⟩)
    · exact .inr (.inr (.inl hserial))
    · exact .inr (.inr (.inr hcovers))
  cases block with
  | startIfNecessary =>
      have hrest : { job with mainQueue := blocks }.Scheduled := by
        refine ⟨h.consistent, h.sound, h.unset, fun hactive uniqueId expiresAt hrow hpos => ?_⟩
        rcases hwithout expiresAt (h.covered hactive uniqueId expiresAt hrow hpos) with
          ⟨date, ⟨⟩, -⟩ | hcovered
        exact hcovered
      rw [DisappearingMessagesJob.runMainBlock]
      split
      · exact hrest
      · exact hrest.of_queues (fun _ hmem => hmem) fun _ hmem => List.mem_append_left _ hmem
  | expirationStarted started =>
      refine ⟨h.consistent, h.sound, h.unset, fun hactive uniqueId expiresAt hrow hpos => ?_⟩
      rcases hwithout expiresAt (h.covered hactive uniqueId expiresAt hrow hpos) with
        ⟨date, ⟨⟩, hle⟩ | hcovered
      · exact .inl ⟨.scheduleRunByDate started.toNat,
          List.mem_append_right _ (List.mem_singleton_self _), _, rfl, hle⟩
      · exact hcovered.mono (fun _ hmem => List.mem_append_left _ hmem) (fun _ hmem => hmem) rfl
  | scheduleRunByDate asked =>
      rw [DisappearingMessagesJob.runMainBlock]
      split
      · next hinactive =>
          refine ⟨h.consistent, h.sound, h.unset, fun hactive => ?_⟩
          dsimp only at hinactive hactive
          rw [hactive] at hinactive
          cases hinactive
      · refine ⟨h.consistent, h.sound.request, fun hinactive => ?_,
          fun hactive uniqueId expiresAt hrow hpos => ?_⟩
        · next hactive =>
            dsimp only at hinactive hactive
            rw [hinactive] at hactive
            exact absurd rfl hactive
        · rcases hwithout expiresAt (h.covered hactive uniqueId expiresAt hrow hpos) with
            ⟨date, ⟨⟩, hle⟩ | hmain | hserial | hcovers
          · exact .inr (.inr (WakeUp.covers_request hle))
          · exact .inl hmain
          · exact .inr (.inl hserial)
          · exact .inr (.inr hcovers.request)

theorem Scheduled.runSerialBlock {block : ExpirationSerialBlock}
    {blocks : List ExpirationSerialBlock} (first : job.serialQueue = block :: blocks) :
    ({ job with serialQueue := blocks }.runSerialBlock now finderNow block).Scheduled := by
  -- Only the transaction that looks for the next message covers any.
  have hwithout (hne : block ≠ .scheduleNextRun) :
      { job with serialQueue := blocks }.Scheduled := by
    refine ⟨h.consistent, h.sound, h.unset, fun hactive uniqueId expiresAt hrow hpos => ?_⟩
    rcases h.covered hactive uniqueId expiresAt hrow hpos with hmain | hserial | hcovers
    · exact .inl hmain
    · rw [first] at hserial
      rcases List.mem_cons.mp hserial with rfl | hmem
      · exact absurd rfl hne
      · exact .inr (.inl hmem)
    · exact .inr (.inr hcovers)
  cases block with
  | cleanupMessagesWhichFailedToStartExpiring => exact (hwithout (by simp)).cleanup _
  | deleteExpiredMessages =>
      refine (hwithout (by simp)).of_database (h.consistent.foldl_deleteIfExpired _) ?_
      intro uniqueId expiresAt hrow hpos
      exact ⟨uniqueId, expiresAt, lookup_expiresAtIndex_of_foldl hrow, hpos, Int.le_refl _⟩
  | scheduleNextRun =>
      rw [DisappearingMessagesJob.runSerialBlock]
      dsimp only
      cases hnext : job.database.nextExpirationTimestamp with
      | none =>
          refine ⟨h.consistent, h.sound, h.unset, fun _ uniqueId expiresAt hrow hpos => ?_⟩
          obtain ⟨next, hsome, -⟩ := exists_nextExpirationTimestamp h.consistent hrow hpos
          rw [hnext] at hsome
          cases hsome
      | some nextExpirationAt =>
          refine ⟨h.consistent, h.sound, h.unset, fun _ uniqueId expiresAt hrow hpos => ?_⟩
          obtain ⟨next, hsome, hle⟩ := exists_nextExpirationTimestamp h.consistent hrow hpos
          rw [hnext] at hsome
          cases hsome
          exact .inl ⟨_, List.mem_append_right _ (List.mem_singleton_self _), _, rfl, hle⟩

/-! ### Every step, and every run -/

theorem Scheduled.of_runLoop {isMainAppAndActive : Bool} {nextDisappearance : WakeUp}
    (sound : nextDisappearance.Sound minDelayMilliseconds)
    (unset : isMainAppAndActive = false → nextDisappearance = .unset) :
    { job with
      isMainAppAndActive
      nextDisappearance
      serialQueue := job.serialQueue ++ runLoop }.Scheduled where
  consistent := h.consistent
  sound := sound
  unset := unset
  covered _ _ _ _ _ := .inr (.inl (List.mem_append_right _ (by simp [runLoop])))

end

/-- **Each step keeps the invariant**, where saves and touches start nothing. -/
theorem Step.scheduled {event : Event} (step : Step job event job') (h : job.Scheduled)
    (startNothing : SavesStartNothing job event job') : job'.Scheduled := by
  cases step with
  | saved uniqueId interaction =>
      exact h.of_database h.consistent.save fun other expiresAt =>
        exists_row_of_save fun expiresAt => startNothing uniqueId interaction expiresAt (.inl rfl)
  | touched uniqueId =>
      refine h.of_database h.consistent.touch fun other expiresAt hrow hpos => ?_
      rw [ExpirationDatabase.touch] at hrow
      split at hrow
      · next interaction stored =>
          exact exists_row_of_save
            (fun expiresAt => startNothing uniqueId interaction expiresAt (.inr ⟨rfl, stored⟩))
            hrow hpos
      · exact ⟨other, expiresAt, hrow, hpos, Int.le_refl _⟩
  | removed uniqueId =>
      refine h.of_database h.consistent.remove fun other expiresAt hrow hpos => ?_
      exact ⟨other, expiresAt, lookup_expiresAtIndex_of_remove hrow, hpos, Int.le_refl _⟩
  | attachmentsChanged attachmentPointers =>
      refine h.of_database ⟨h.consistent.row, h.consistent.listed⟩
        fun other expiresAt hrow hpos => ?_
      exact ⟨other, expiresAt, hrow, hpos, Int.le_refl _⟩
  | expirationStarted startable => exact h.startAnyExpiration startable
  | savedAndStarted uniqueId message expirationStartedAt now => exact h.saveAndStart
  | startIfNecessary =>
      exact h.of_queues (fun _ hmem => List.mem_append_left _ hmem) fun _ hmem => hmem
  | mainBlockRan now first => exact h.runMainBlock first
  | serialBlockRan now finderNow first => exact h.runSerialBlock first
  | disappearanceTimerFired set =>
      rw [disappearanceTimerDidFire]
      split
      · exact h
      · exact h.of_runLoop WakeUp.sound_unset fun _ => rfl
  | fallbackTimerFired =>
      rw [fallbackTimerDidFire]
      split
      · exact h
      · exact h.of_runLoop h.sound h.unset
  | becameActive => exact h.of_runLoop h.sound (by simp)
  | willResignActive =>
      exact ⟨h.consistent, WakeUp.sound_unset, fun _ => rfl, by simp [applicationWillResignActive]⟩
  | relaunched => exact ⟨h.consistent, WakeUp.sound_unset, fun _ => rfl, by simp [launch]⟩

/-- The app has just been launched. -/
structure AtLaunch (job : DisappearingMessagesJob) : Prop where
  consistent : job.database.Consistent
  launched : job = job.launch

theorem AtLaunch.scheduled (h : job.AtLaunch) : job.Scheduled := by
  rw [h.launched]
  exact ⟨h.consistent, WakeUp.sound_unset, fun _ => rfl, by simp [launch]⟩

/-- **Each run keeps the invariant** whose saves start nothing. -/
theorem scheduled_of_run {events : List Event} (atLaunch : job.AtLaunch)
    (run : LabelledRun Step job events job')
    (startNothing : LabelledRun.EveryStep Step job events SavesStartNothing) : job'.Scheduled :=
  @LabelledRun.invariant _ _ _ _ _ _ (fun _ => Scheduled) (run.restrict startNothing)
    atLaunch.scheduled fun _ _ _ _ h step => step.1.scheduled h step.2

theorem consistent_startAnyExpiration (h : job.database.Consistent) :
    (job.startAnyExpiration uniqueId message expirationStartedAt now).database.Consistent := by
  obtain ⟨database, blocks, heq, rfl | rfl⟩ :=
    job.startAnyExpiration_eq uniqueId message expirationStartedAt now <;> rw [heq]
  · exact h
  · exact h.updateWithExpireStartedAt

theorem consistent_cleanup (h : job.database.Consistent) (uniqueIds : List String) :
    (uniqueIds.foldl (DisappearingMessagesJob.startFailedExpiration now)
      job).database.Consistent := by
  induction uniqueIds generalizing job with
  | nil => exact h
  | cons first uniqueIds ih =>
      refine ih ?_
      rw [DisappearingMessagesJob.startFailedExpiration]
      split
      · split
        · exact consistent_startAnyExpiration h
        · exact h
      · exact h

theorem database_runMainBlock {block : ExpirationMainBlock} {now : ℤ} :
    (job.runMainBlock now block).database = job.database := by
  cases block with
  | startIfNecessary | scheduleRunByDate asked =>
      rw [DisappearingMessagesJob.runMainBlock]
      split <;> rfl
  | expirationStarted started => rfl

theorem consistent_runSerialBlock {block : ExpirationSerialBlock}
    (h : job.database.Consistent) :
    (job.runSerialBlock now finderNow block).database.Consistent := by
  cases block with
  | cleanupMessagesWhichFailedToStartExpiring => exact consistent_cleanup h _
  | deleteExpiredMessages => exact h.foldl_deleteIfExpired _
  | scheduleNextRun =>
      rw [DisappearingMessagesJob.runSerialBlock]
      split <;> exact h

theorem Step.consistent {event : Event} (step : Step job event job')
    (h : job.database.Consistent) : job'.database.Consistent := by
  cases step with
  | saved uniqueId interaction => exact h.save
  | touched uniqueId => exact h.touch
  | removed uniqueId => exact h.remove
  | attachmentsChanged attachmentPointers => exact ⟨h.row, h.listed⟩
  | expirationStarted startable => exact consistent_startAnyExpiration h
  | savedAndStarted uniqueId message expirationStartedAt now =>
      exact consistent_startAnyExpiration h.save
  | startIfNecessary => exact h
  | mainBlockRan now first =>
      rw [database_runMainBlock]
      exact h
  | serialBlockRan now finderNow first => exact consistent_runSerialBlock h
  | disappearanceTimerFired set =>
      rw [disappearanceTimerDidFire]
      split <;> exact h
  | fallbackTimerFired =>
      rw [fallbackTimerDidFire]
      split <;> exact h
  | becameActive => exact h
  | willResignActive => exact h
  | relaunched => exact h

theorem consistent_of_run {events : List Event} (atLaunch : job.AtLaunch)
    (run : LabelledRun Step job events job') : job'.database.Consistent :=
  @LabelledRun.invariant _ _ _ _ _ _ (fun _ job => job.database.Consistent) run
    atLaunch.consistent fun _ _ _ _ h step => step.consistent h

/-- An idle job has its wake-up set, in time for what the index has. -/
theorem Scheduled.exists_due (h : job.Scheduled) (active : job.isMainAppAndActive = true)
    (mainIdle : job.mainQueue = []) (serialIdle : job.serialQueue = [])
    (hrow : job.database.expiresAtIndex.lookup uniqueId = some expiresAt) (hpos : 0 < expiresAt) :
    ∃ due earlier request later, job.nextDisappearance.due = some due ∧
      job.nextDisappearance.requests = earlier ++ request :: later ∧ request.1 ≤ expiresAt ∧
        (∀ other ∈ later, expiresAt < other.1) ∧
          due ≤ max expiresAt (request.2 + minDelayMilliseconds) := by
  refine h.sound.exists_lastRequest ?_
  rcases h.covered active uniqueId expiresAt hrow hpos with ⟨block, hmem, -⟩ | hserial | hcovers
  · rw [mainIdle] at hmem
    cases hmem
  · rw [serialIdle] at hserial
    cases hserial
  · exact hcovers

/-- **Disappearing messages go when they are due**, as far as the index knows of them: of all
with a time to expire at and nothing to download.  A transaction that deletes takes what is due and
nothing else; and where saves and touches start no expiration, an idle job in an active app has its
wake-up set, for each message by its time or by the delay after it was last asked for. -/
theorem disappearing_messages_on_time {events : List Event} (atLaunch : job.AtLaunch)
    (run : LabelledRun Step job events job') :
    (∀ blocks now finderNow after, job'.serialQueue = .deleteExpiredMessages :: blocks →
      Step job' (.serialBlockRan now finderNow) after → ∀ uniqueId,
        (job'.database.IsDue now finderNow uniqueId →
          after.database.interactions.lookup uniqueId = none) ∧
        (¬job'.database.IsDue now finderNow uniqueId →
          after.database.interactions.lookup uniqueId =
            job'.database.interactions.lookup uniqueId)) ∧
    (∀ uniqueId message,
      job'.database.interactions.lookup uniqueId = some (.message message) →
        message.NothingToDownload → 0 < signed message.expiresAt →
          job'.database.expiresAtIndex.lookup uniqueId = some (signed message.expiresAt)) ∧
    (LabelledRun.EveryStep Step job events SavesStartNothing →
      job'.isMainAppAndActive = true → job'.mainQueue = [] → job'.serialQueue = [] →
        ∀ uniqueId expiresAt, job'.database.expiresAtIndex.lookup uniqueId = some expiresAt →
          0 < expiresAt → ∃ due earlier request later,
            job'.nextDisappearance.due = some due ∧
              job'.nextDisappearance.requests = earlier ++ request :: later ∧
                request.1 ≤ expiresAt ∧ (∀ other ∈ later, expiresAt < other.1) ∧
                  due ≤ max expiresAt (request.2 + minDelayMilliseconds)) := by
  have hconsistent := consistent_of_run atLaunch run
  refine ⟨fun blocks now finderNow after hfirst step uniqueId => ?_, hconsistent.listed,
    fun startNothing active mainIdle serialIdle uniqueId expiresAt hrow hpos => ?_⟩
  · cases step with
    | serialBlockRan _ _ first =>
        rw [hfirst] at first
        cases first
        exact lookup_deleteExpiredMessages hconsistent
  · exact (scheduled_of_run atLaunch run startNothing).exists_due active mainIdle serialIdle
      hrow hpos

/-! ### Two messages -/

/-- The app as it is launched, with some attachments to be downloaded. -/
def emptyJob (attachmentPointers : List String) : DisappearingMessagesJob where
  database :=
    { interactions := ∅
      attachmentPointers
      expiresAtIndex := ∅ }
  isMainAppAndActive := false
  hasStarted := false
  nextDisappearance := .unset
  mainQueue := []
  serialQueue := []

theorem atLaunch_emptyJob (attachmentPointers : List String) :
    (emptyJob attachmentPointers).AtLaunch where
  consistent := ⟨fun _ _ h => by simp [emptyJob] at h, fun _ _ h => by simp [emptyJob] at h⟩
  launched := rfl

def fiveSeconds (kind : TSMessageKind) : TSMessage where
  kind := kind
  timestampForSorting := 500
  expiresInSeconds := 5
  expireStartedAt := 0

/-- The message once its timer has been started. -/
def startedFiveSeconds (kind : TSMessageKind) : TSMessage :=
  { fiveSeconds kind with expireStartedAt := 1000 }

theorem expiresAt_startedFiveSeconds (kind : TSMessageKind) :
    (startedFiveSeconds kind).expiresAt = 6000 := by
  have hstarted : 0 < (startedFiveSeconds kind).expiresInSeconds ∧
      0 < (startedFiveSeconds kind).expireStartedAt := by
    simp [startedFiveSeconds, fiveSeconds]
  rw [TSMessage.expiresAt, if_pos hstarted]
  simp only [startedFiveSeconds, fiveSeconds]
  decide

/-- The active app with the message saved and started, the job idle. -/
def startedJob (kind : TSMessageKind) (attachmentPointers : List String) :
    DisappearingMessagesJob :=
  { emptyJob attachmentPointers with
    database :=
      ((emptyJob attachmentPointers).database.save "m" (.message (fiveSeconds kind))).save "m"
        (.message (startedFiveSeconds kind))
    isMainAppAndActive := true
    nextDisappearance := WakeUp.unset.request minDelayMilliseconds 6000 1000 }

/-- What leads to it. -/
def startedEvents (kind : TSMessageKind) : List Event :=
  [.becameActive, .serialBlockRan 1000 1000, .serialBlockRan 1000 1000,
    .savedAndStarted "m" (fiveSeconds kind) 1000 1000, .mainBlockRan 1000, .mainBlockRan 1000]

theorem startAnyExpiration_fiveSeconds (kind : TSMessageKind) (job : DisappearingMessagesJob) :
    ({ job with
        database := job.database.save "m" (.message (fiveSeconds kind)) }.startAnyExpiration
      "m" (fiveSeconds kind) 1000 1000) =
    { job with
      database := (job.database.save "m" (.message (fiveSeconds kind))).save "m"
        (.message (startedFiveSeconds kind))
      mainQueue := job.mainQueue ++ [.expirationStarted 6000] } := by
  have hstart : (fiveSeconds kind).setExpireStartedAt 1000 1000 = startedFiveSeconds kind :=
    setExpireStartedAt_of_starts (.inl rfl)
  rw [startAnyExpiration, if_neg (by simp [fiveSeconds, TSMessage.isExpiringMessage]),
    if_pos (.inl rfl), updateWithExpireStartedAt, lookup_interactions_save]
  simp only [hstart, expiresAt_startedFiveSeconds]

theorem run_startedJob (kind : TSMessageKind) (attachmentPointers : List String) :
    LabelledRun Step (emptyJob attachmentPointers) (startedEvents kind)
      (startedJob kind attachmentPointers) := by
  have active : LabelledRun Step (emptyJob attachmentPointers) [.becameActive]
      { emptyJob attachmentPointers with isMainAppAndActive := true, serialQueue := runLoop } :=
    .single .becameActive
  have deleted : LabelledRun Step (emptyJob attachmentPointers)
      [.becameActive, .serialBlockRan 1000 1000]
      { emptyJob attachmentPointers with
        isMainAppAndActive := true, serialQueue := [.scheduleNextRun] } :=
    active.tail (@Step.serialBlockRan _ .deleteExpiredMessages _ 1000 1000 rfl)
  have ran : LabelledRun Step (emptyJob attachmentPointers)
      [.becameActive, .serialBlockRan 1000 1000, .serialBlockRan 1000 1000]
      { emptyJob attachmentPointers with isMainAppAndActive := true } :=
    deleted.tail (@Step.serialBlockRan _ .scheduleNextRun _ 1000 1000 rfl)
  have starts := @Step.savedAndStarted
    { emptyJob attachmentPointers with isMainAppAndActive := true } "m" (fiveSeconds kind) 1000 1000
  rw [startAnyExpiration_fiveSeconds] at starts
  have started : LabelledRun Step (emptyJob attachmentPointers)
      [.becameActive, .serialBlockRan 1000 1000, .serialBlockRan 1000 1000,
        .savedAndStarted "m" (fiveSeconds kind) 1000 1000]
      { startedJob kind attachmentPointers with
        nextDisappearance := .unset, mainQueue := [.expirationStarted 6000] } :=
    ran.tail starts
  have asked : LabelledRun Step (emptyJob attachmentPointers)
      [.becameActive, .serialBlockRan 1000 1000, .serialBlockRan 1000 1000,
        .savedAndStarted "m" (fiveSeconds kind) 1000 1000, .mainBlockRan 1000]
      { startedJob kind attachmentPointers with
        nextDisappearance := .unset, mainQueue := [.scheduleRunByDate 6000] } :=
    started.tail (@Step.mainBlockRan _ (.expirationStarted 6000) [] 1000 rfl)
  exact asked.tail (@Step.mainBlockRan _ (.scheduleRunByDate 6000) [] 1000 rfl)

theorem sent_message_on_time : ∃ due, (startedJob (.outgoing true) []).nextDisappearance.due =
    some due ∧ due ≤ 6000 := by
  obtain ⟨-, -, hidle⟩ :=
    disappearing_messages_on_time (atLaunch_emptyJob []) (run_startedJob (.outgoing true) [])
  obtain ⟨due, earlier, request, later, hdue, hrequests, hle, hlater, hinTime⟩ :=
    hidle (by
      intro before label after s s' hevents _ _ uniqueId interaction expiresAt hsaves
      have hmem : label ∈ startedEvents (.outgoing true) := by
        rw [hevents]
        exact List.mem_append_right _ (List.mem_cons_self ..)
      obtain rfl | ⟨rfl, -⟩ := hsaves <;> simp [startedEvents] at hmem)
      rfl rfl rfl "m" 6000 rfl (by decide)
  refine ⟨due, hdue, ?_⟩
  have hrequest : (6000, 1000) = request := by
    have hsingle : [((6000, 1000) : ℤ × ℤ)] = earlier ++ request :: later := hrequests
    cases earlier with
    | nil => exact (List.cons.inj hsingle).1
    | cons first rest => simp at hsingle
  subst hrequest
  exact hinTime

def firedJob : DisappearingMessagesJob :=
  { startedJob (.incoming ["a"] true) ["a"] with
    nextDisappearance := .unset
    serialQueue := runLoop }

/-- **An expired message stays.**  A message is read while its attachment is still to be
downloaded, and is not in the index: the run at the time it expires leaves it there, and the
job is idle without a wake-up.  The message enters the index when it is touched after the
download, and there is still no wake-up. -/
theorem expired_message_stays :
    (startedFiveSeconds (.incoming ["a"] true)).expiresAt = 6000 ∧
    LabelledRun Step (emptyJob ["a"])
      (startedEvents (.incoming ["a"] true) ++ [.disappearanceTimerFired]) firedJob ∧
    LabelledRun Step firedJob [.serialBlockRan 6000 6000, .serialBlockRan 6000 6000]
      { firedJob with serialQueue := [] } ∧
    firedJob.isMainAppAndActive = true ∧ firedJob.mainQueue = [] ∧
    firedJob.nextDisappearance.due = none ∧
    firedJob.database.interactions.lookup "m" =
      some (.message (startedFiveSeconds (.incoming ["a"] true))) ∧
    ∃ database, LabelledRun Step { firedJob with serialQueue := [] }
      [.attachmentsChanged [], .touched "m"]
      { firedJob with database, serialQueue := [] } ∧
      database.expiresAtIndex.lookup "m" = some 6000 := by
  have fired : Step (startedJob (.incoming ["a"] true) ["a"]) .disappearanceTimerFired firedJob :=
    .disappearanceTimerFired rfl
  have deleted : Step firedJob (.serialBlockRan 6000 6000)
      { firedJob with serialQueue := [.scheduleNextRun] } :=
    @Step.serialBlockRan _ .deleteExpiredMessages [.scheduleNextRun] 6000 6000 rfl
  have ran : Step { firedJob with serialQueue := [.scheduleNextRun] } (.serialBlockRan 6000 6000)
      { firedJob with serialQueue := [] } :=
    @Step.serialBlockRan _ .scheduleNextRun [] 6000 6000 rfl
  refine ⟨expiresAt_startedFiveSeconds _, (run_startedJob _ _).tail fired,
    (LabelledRun.single deleted).tail ran, rfl, rfl, rfl, lookup_interactions_save, _,
    (LabelledRun.single (.attachmentsChanged [])).tail (.touched "m"), ?_⟩
  rfl

end DisappearingMessagesJob

end ObjcSwiftLearning.SignalServiceKit
