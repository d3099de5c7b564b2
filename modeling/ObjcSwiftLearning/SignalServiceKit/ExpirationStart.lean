import ObjcSwiftLearning.SignalServiceKit.IncomingMessages

/-!
# When the expiration of a message starts

A message that is read, here, on a linked device or before it arrived, starts to expire.  Each
call loads a copy of the message, and changes that copy and the row.

* `MessageCopies.markAsReadAtTimestamp_same` — a freshly loaded copy and its row stay the same,
  so that a call is a function of the row.
* `expireStartedAt_performAll` — the start is the earliest of the times of the calls, each cut
  off at its clock, as long as the clock has not been turned back behind the start.
* `performAll_perm` — so the order of the calls does not matter.
-/

namespace ObjcSwiftLearning.SignalServiceKit

/-! ## A copy and its row -/

/-- A message that was loaded, and the row. -/
structure MessageCopies where
  copy : TSIncomingMessage
  row : TSIncomingMessage

namespace MessageCopies

variable (copies : MessageCopies)

/-- A copy that was loaded just now. -/
def load (row : TSIncomingMessage) : MessageCopies := ⟨row, row⟩

/-- `saveWithTransaction:`. -/
def save : MessageCopies := load copies.copy

def applyChangeToSelfAndLatestCopy (changeBlock : TSIncomingMessage → TSIncomingMessage) :
    MessageCopies :=
  ⟨changeBlock copies.copy, changeBlock copies.row⟩

def updateWithExpireStartedAt (expireStartedAt now : ℕ) : MessageCopies :=
  copies.applyChangeToSelfAndLatestCopy fun message =>
    message.setExpireStartedAt expireStartedAt now

def startAnyExpiration (expirationStartedAt now : ℕ) : MessageCopies :=
  if !copies.copy.isExpiringMessage then copies
  else if copies.copy.expireStartedAt = 0 ∨ expirationStartedAt < copies.copy.expireStartedAt then
    copies.updateWithExpireStartedAt expirationStartedAt now
  else copies

/-- `markAsReadAtTimestamp:sendReadReceipt:transaction:`. -/
def markAsReadAtTimestamp (readTimestamp now : ℕ) : MessageCopies :=
  if copies.copy.read && copies.copy.expireStartedAt ≤ readTimestamp then copies
  else
    { copies with copy := { copies.copy with read := true } }.save.startAnyExpiration
      readTimestamp now

/-- A fresh copy and its row change alike. -/
theorem startAnyExpiration_load (row : TSIncomingMessage) (expirationStartedAt now : ℕ) :
    (load row).startAnyExpiration expirationStartedAt now =
      load (row.startAnyExpiration expirationStartedAt now) := by
  rw [startAnyExpiration, TSIncomingMessage.startAnyExpiration, apply_ite load, apply_ite load]
  rfl

/-- **A call is a function of the row.** -/
theorem markAsReadAtTimestamp_load (row : TSIncomingMessage) (readTimestamp now : ℕ) :
    (load row).markAsReadAtTimestamp readTimestamp now =
      load (row.markAsReadAtTimestamp readTimestamp now) := by
  rw [markAsReadAtTimestamp, TSIncomingMessage.markAsReadAtTimestamp, apply_ite load]
  exact congrArg (ite _ _) (startAnyExpiration_load _ _ _)

end MessageCopies

/-! ## Calls -/

/-- A call on a freshly loaded copy, with the time it is given and that of the clock. -/
inductive ReadCall where
  | markAsRead (readTimestamp now : ℕ)
  | startAnyExpiration (expirationStartedAt now : ℕ)
  deriving DecidableEq

namespace ReadCall

/-- The time a call is given. -/
def timestamp : ReadCall → ℕ
  | markAsRead readTimestamp _ => readTimestamp
  | startAnyExpiration expirationStartedAt _ => expirationStartedAt

/-- The time of the clock. -/
def now : ReadCall → ℕ
  | markAsRead _ now => now
  | startAnyExpiration _ now => now

/-- Whether the call is `markAsReadAtTimestamp:`. -/
def isMarkAsRead : ReadCall → Bool
  | markAsRead _ _ => true
  | startAnyExpiration _ _ => false

/-- The earlier of the two times. -/
def start (call : ReadCall) : ℕ := min call.timestamp call.now

/-- The row after a call on a freshly loaded copy. -/
def perform (row : TSIncomingMessage) (call : ReadCall) : TSIncomingMessage :=
  match call with
  | markAsRead readTimestamp now =>
      ((MessageCopies.load row).markAsReadAtTimestamp readTimestamp now).row
  | startAnyExpiration expirationStartedAt now =>
      ((MessageCopies.load row).startAnyExpiration expirationStartedAt now).row

@[simp] theorem perform_markAsRead (row : TSIncomingMessage) (readTimestamp now : ℕ) :
    (markAsRead readTimestamp now).perform row = row.markAsReadAtTimestamp readTimestamp now := by
  rw [perform, MessageCopies.markAsReadAtTimestamp_load]
  rfl

@[simp] theorem perform_startAnyExpiration (row : TSIncomingMessage)
    (expirationStartedAt now : ℕ) :
    (startAnyExpiration expirationStartedAt now).perform row =
      row.startAnyExpiration expirationStartedAt now := by
  rw [perform, MessageCopies.startAnyExpiration_load]
  rfl

def performAll (row : TSIncomingMessage) (calls : List ReadCall) : TSIncomingMessage :=
  calls.foldl perform row

/-- The call is given a time, its clock is set, and the clock is not behind the start that is
stored, unless the time given is. -/
def Dated (row : TSIncomingMessage) (call : ReadCall) : Prop :=
  call.timestamp ≠ 0 ∧ call.now ≠ 0 ∧
    (row.expireStartedAt ≤ call.now ∨ call.timestamp < row.expireStartedAt)

def AllDated (row : TSIncomingMessage) : List ReadCall → Prop
  | [] => True
  | call :: calls => call.Dated row ∧ AllDated (call.perform row) calls

variable {row : TSIncomingMessage} {call : ReadCall} {calls calls' : List ReadCall}

/-- A row that a call finds: it expires, and one that has not started to is unread. -/
structure Expires (row : TSIncomingMessage) : Prop where
  expiresInSeconds : 0 < row.expiresInSeconds
  unread : row.expireStartedAt = 0 → row.read = false

/-- A start in closed form. -/
theorem startAnyExpiration_eq (h : Expires row) (expirationStartedAt now : ℕ) :
    row.startAnyExpiration expirationStartedAt now =
      { row with
        expireStartedAt :=
          if row.expireStartedAt = 0 ∨ expirationStartedAt < row.expireStartedAt then
            min now expirationStartedAt
          else row.expireStartedAt } := by
  have hexpiring : row.isExpiringMessage = true := by
    simpa [TSIncomingMessage.isExpiringMessage] using h.expiresInSeconds
  rw [TSIncomingMessage.startAnyExpiration, hexpiring]
  by_cases hstart : row.expireStartedAt = 0 ∨ expirationStartedAt < row.expireStartedAt
  · have hnotlater : ¬(row.expireStartedAt ≠ 0 ∧ row.expireStartedAt < expirationStartedAt) := by
      omega
    simp [hstart, TSIncomingMessage.setExpireStartedAt, hnotlater]
  · simp [hstart]

/-- **What a call does**: it starts the expiration, or makes an earlier start of it. -/
theorem perform_eq (h : Expires row) (dated : call.Dated row) :
    call.perform row =
      { row with
        read := row.read || call.isMarkAsRead
        expireStartedAt :=
          if row.expireStartedAt = 0 then call.start else min row.expireStartedAt call.start } := by
  obtain ⟨htimestamp, hnow, hclock⟩ := dated
  have hunread := h.unread
  cases call with
  | markAsRead readTimestamp now =>
      simp only [timestamp, ReadCall.now] at hclock
      simp only [perform_markAsRead, TSIncomingMessage.markAsReadAtTimestamp_eq, isMarkAsRead,
        Bool.or_true, start, timestamp, ReadCall.now, h.expiresInSeconds, true_and]
      congr 1
      by_cases hstart : row.expireStartedAt = 0
      · simp [hstart, hunread hstart, Nat.min_comm]
      · simp only [hstart, false_and, false_or, if_false]
        split <;> omega
  | startAnyExpiration expirationStartedAt now =>
      simp only [timestamp, ReadCall.now] at hclock
      simp only [perform_startAnyExpiration, startAnyExpiration_eq h, isMarkAsRead,
        Bool.or_false, start, timestamp, ReadCall.now]
      congr 1
      by_cases hstart : row.expireStartedAt = 0
      · simp [hstart, Nat.min_comm]
      · simp only [hstart, false_or, if_false]
        split <;> omega

theorem Dated.start_ne_zero (dated : call.Dated row) : call.start ≠ 0 := by
  obtain ⟨htimestamp, hnow, -⟩ := dated
  rw [start]
  omega

theorem perform_expires (h : Expires row) (dated : call.Dated row) :
    Expires (call.perform row) ∧ (call.perform row).expireStartedAt ≠ 0 := by
  have hstart := dated.start_ne_zero
  have hne : (call.perform row).expireStartedAt ≠ 0 := by
    rw [perform_eq h dated]
    dsimp only
    split <;> omega
  refine ⟨⟨?_, fun hzero => absurd hzero hne⟩, hne⟩
  rw [perform_eq h dated]
  exact h.expiresInSeconds

theorem performAll_eq_of_started (h : Expires row) (hstarted : row.expireStartedAt ≠ 0)
    (dated : AllDated row calls) :
    performAll row calls =
      { row with
        read := row.read || calls.any isMarkAsRead
        expireStartedAt := (calls.map start).foldl min row.expireStartedAt } := by
  induction calls generalizing row with
  | nil => simp [performAll]
  | cons call calls ih =>
      obtain ⟨hcall, hcalls⟩ := dated
      obtain ⟨hexpires, hne⟩ := perform_expires h hcall
      change performAll (call.perform row) calls = _
      rw [ih hexpires hne hcalls, perform_eq h hcall]
      simp [hstarted, Bool.or_assoc]

/-- **Calls on a message that is unread.** -/
theorem performAll_eq (h : Expires row) (hunstarted : row.expireStartedAt = 0)
    (dated : AllDated row calls) :
    performAll row calls =
      { row with
        read := calls.any isMarkAsRead
        expireStartedAt := (calls.map start).min?.getD 0 } := by
  have hunread := h.unread hunstarted
  cases calls with
  | nil =>
      simp only [performAll, List.foldl_nil, List.any_nil, List.map_nil, List.min?_nil,
        Option.getD_none, ← hunread, ← hunstarted]
  | cons call calls =>
      obtain ⟨hcall, hcalls⟩ := dated
      obtain ⟨hexpires, hne⟩ := perform_expires h hcall
      change performAll (call.perform row) calls = _
      rw [performAll_eq_of_started hexpires hne hcalls, perform_eq h hcall, List.map_cons,
        List.min?_cons']
      simp [hunstarted, hunread]

theorem allDated_of_pairwise (h : Expires row) (hcalls : calls.Pairwise fun a b => a.now ≤ b.now)
    (hset : ∀ call ∈ calls, call.timestamp ≠ 0 ∧ call.now ≠ 0)
    (hstarted : ∀ call ∈ calls, row.expireStartedAt ≤ call.now) : AllDated row calls := by
  induction calls generalizing row with
  | nil => trivial
  | cons call calls ih =>
      obtain ⟨hfirst, hcalls⟩ := List.pairwise_cons.mp hcalls
      have hcall : call.Dated row :=
        ⟨(hset call List.mem_cons_self).1, (hset call List.mem_cons_self).2,
          .inl (hstarted call List.mem_cons_self)⟩
      refine ⟨hcall, ih (perform_expires h hcall).1 hcalls
        (fun later hlater => hset later (List.mem_cons_of_mem _ hlater)) fun later hlater => ?_⟩
      have hnow := hfirst later hlater
      rw [perform_eq h hcall]
      simp only [start]
      split <;> omega

theorem min?_eq_of_perm {times times' : List ℕ} (h : times.Perm times') :
    times.min? = times'.min? := by
  ext time
  simp only [List.min?_eq_some_iff, h.mem_iff]

/-- **Expiration starts at the earliest read.**  A message that was not read becomes read
exactly by the calls that mark it so, and its expiration starts at the earliest of the times
of the calls, each cut off at its clock; another order of the calls comes to the same. -/
theorem expiration_starts_at_earliest_read (hexpires : 0 < row.expiresInSeconds)
    (hunread : row.read = false) (hunstarted : row.expireStartedAt = 0)
    (dated : AllDated row calls) :
    ((performAll row calls).read = true ↔ ∃ call ∈ calls, call.isMarkAsRead = true) ∧
      (performAll row calls).expireStartedAt =
        (calls.map fun call => min call.timestamp call.now).min?.getD 0 ∧
      ∀ calls', calls'.Perm calls → AllDated row calls' →
        performAll row calls' = performAll row calls := by
  have h : Expires row := ⟨hexpires, fun _ => hunread⟩
  refine ⟨?_, ?_, fun calls' hperm dated' => ?_⟩
  · rw [performAll_eq h hunstarted dated]
    exact List.any_eq_true
  · rw [performAll_eq h hunstarted dated]
    rfl
  · rw [performAll_eq h hunstarted dated, performAll_eq h hunstarted dated', hperm.any_eq,
      min?_eq_of_perm (hperm.map start)]

/-- A message with a timer of one minute, just received. -/
def sampleExpiringRow : TSIncomingMessage :=
  .initIncomingMessage "message" "c+1" "+1" 1 2 60

/-- An early receipt, a read here and an earlier one elsewhere. -/
theorem expiration_starts_at_earliest_read_sample :
    (performAll sampleExpiringRow
      [.startAnyExpiration 90 40, .markAsRead 45 45, .markAsRead 30 50]).expireStartedAt = 30 := by
  have dated : AllDated sampleExpiringRow
      [.startAnyExpiration 90 40, .markAsRead 45 45, .markAsRead 30 50] := by
    refine allDated_of_pairwise ⟨by decide, fun _ => rfl⟩ (by decide) (by decide) (by decide)
  exact (expiration_starts_at_earliest_read (by decide) rfl rfl dated).2.1

theorem start_not_earliest_of_clock_turned_back :
    ¬∀ (row : TSIncomingMessage) (calls : List ReadCall), 0 < row.expiresInSeconds →
      row.read = false → row.expireStartedAt = 0 → (∀ call ∈ calls, call.timestamp ≠ 0) →
      (performAll row calls).expireStartedAt =
        (calls.map fun call => min call.timestamp call.now).min?.getD 0 := by
  intro hearliest
  have h := hearliest sampleExpiringRow [.markAsRead 100 100, .markAsRead 100 50]
    (by decide) rfl rfl (by decide)
  exact absurd h (by decide)

end ReadCall

end ObjcSwiftLearning.SignalServiceKit
