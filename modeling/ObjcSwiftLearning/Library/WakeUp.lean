import Mathlib.Data.Int.Order.Basic
import Mathlib.Tactic.Common

/-!
# One wake-up for many deadlines

An alarm that is asked for dates, one after the other.  It rings no sooner than a delay after
it is asked; a request keeps it if it rings earlier anyhow, and sets it anew otherwise.  When
it rings, or is switched off, it is unset, and so are its requests.

* `WakeUp.Sound` — it rings in time for each request: by its date, or by the delay after the
  time of asking.
* `WakeUp.Covers` — it has been asked for a date by then.
* `WakeUp.Sound.exists_lastRequest` — where a deadline is covered, the alarm is set, and rings
  in time counted from **the last request** that covers it.
-/

/-- An alarm. -/
structure WakeUp where
  /-- When it rings, if it is set. -/
  due : Option ℤ
  /-- The dates it has been asked for since it was last unset, each with the time of asking,
  oldest first.  Nothing reads them. -/
  requests : List (ℤ × ℤ)

namespace WakeUp

/-- The alarm is off. -/
def unset : WakeUp where
  due := none
  requests := []

/-- It is asked, at `now`, to ring by `date`. -/
def request (wakeUp : WakeUp) (delay date now : ℤ) : WakeUp where
  due :=
    match wakeUp.due with
    | some earlier =>
        if earlier < now + max delay (date - now) then some earlier
        else some (now + max delay (date - now))
    | none => some (now + max delay (date - now))
  requests := wakeUp.requests ++ [(date, now)]

/-- Each request is met. -/
def Sound (delay : ℤ) (wakeUp : WakeUp) : Prop :=
  ∀ request ∈ wakeUp.requests, ∃ due, wakeUp.due = some due ∧
    due ≤ max request.1 (request.2 + delay)

/-- It has been asked to ring by a deadline. -/
def Covers (wakeUp : WakeUp) (deadline : ℤ) : Prop :=
  ∃ request ∈ wakeUp.requests, request.1 ≤ deadline

variable {wakeUp : WakeUp} {delay date now deadline : ℤ}

theorem sound_unset : unset.Sound delay := by
  intro request hmem
  cases hmem

theorem add_max_sub : now + max delay (date - now) = max date (now + delay) := by
  omega

/-- A request leaves the alarm set, no later than before and in time for the request. -/
theorem exists_due_request : ∃ due, (wakeUp.request delay date now).due = some due ∧
    due ≤ max date (now + delay) ∧ ∀ earlier, wakeUp.due = some earlier → due ≤ earlier := by
  rw [request, add_max_sub]
  cases hdue : wakeUp.due with
  | none => exact ⟨_, rfl, Int.le_refl _, by simp⟩
  | some earlier =>
      by_cases hkeep : earlier < max date (now + delay)
      · refine ⟨earlier, if_pos hkeep, Int.le_of_lt hkeep, ?_⟩
        rintro _ ⟨⟩
        exact Int.le_refl _
      · refine ⟨_, if_neg hkeep, Int.le_refl _, ?_⟩
        rintro _ ⟨⟩
        exact Int.not_lt.mp hkeep

/-- **A request is met, and so are those before it.** -/
theorem Sound.request (h : wakeUp.Sound delay) : (wakeUp.request delay date now).Sound delay := by
  obtain ⟨due, hdue, hmeets, hnoLater⟩ := @exists_due_request wakeUp delay date now
  intro asked hmem
  refine ⟨due, hdue, ?_⟩
  rcases List.mem_append.mp hmem with hbefore | hnew
  · obtain ⟨earlier, hearlier, hle⟩ := h asked hbefore
    exact Int.le_trans (hnoLater earlier hearlier) hle
  · rw [List.mem_singleton] at hnew
    subst hnew
    exact hmeets

theorem Covers.request (h : wakeUp.Covers deadline) :
    (wakeUp.request delay date now).Covers deadline := by
  obtain ⟨asked, hmem, hle⟩ := h
  exact ⟨asked, List.mem_append_left _ hmem, hle⟩

theorem covers_request (h : date ≤ deadline) :
    (wakeUp.request delay date now).Covers deadline :=
  ⟨(date, now), List.mem_append_right _ (List.mem_singleton_self _), h⟩

theorem Covers.mono {later : ℤ} (h : wakeUp.Covers deadline) (hle : deadline ≤ later) :
    wakeUp.Covers later := by
  obtain ⟨asked, hmem, hasked⟩ := h
  exact ⟨asked, hmem, Int.le_trans hasked hle⟩

theorem exists_last_of_mem {α : Type} {p : α → Prop} [DecidablePred p] {l : List α}
    (h : ∃ a ∈ l, p a) :
    ∃ earlier a later, l = earlier ++ a :: later ∧ p a ∧ ∀ b ∈ later, ¬p b := by
  induction l with
  | nil => simp at h
  | cons a l ih =>
      by_cases hlater : ∃ b ∈ l, p b
      · obtain ⟨earlier, b, later, rfl, hb, hnone⟩ := ih hlater
        exact ⟨a :: earlier, b, later, rfl, hb, hnone⟩
      · obtain ⟨b, hb, hpb⟩ := h
        rcases List.mem_cons.mp hb with rfl | hmem
        · exact ⟨[], b, l, rfl, hpb, fun c hc hpc => hlater ⟨c, hc, hpc⟩⟩
        · exact absurd ⟨b, hmem, hpb⟩ hlater

/-- **A covered deadline is met**, counted from the last request that covers it. -/
theorem Sound.exists_lastRequest (h : wakeUp.Sound delay) (hcovers : wakeUp.Covers deadline) :
    ∃ due earlier request later, wakeUp.due = some due ∧
      wakeUp.requests = earlier ++ request :: later ∧ request.1 ≤ deadline ∧
        (∀ other ∈ later, deadline < other.1) ∧ due ≤ max deadline (request.2 + delay) := by
  obtain ⟨earlier, request, later, hrequests, hle, hnone⟩ := exists_last_of_mem hcovers
  have hmem : request ∈ wakeUp.requests := by
    rw [hrequests]
    exact List.mem_append_right _ (List.mem_cons_self ..)
  obtain ⟨due, hdue, hmeets⟩ := h request hmem
  refine ⟨due, earlier, request, later, hdue, hrequests, hle, ?_, ?_⟩
  · exact fun other hother => Int.not_le.mp (hnone other hother)
  · omega

end WakeUp
