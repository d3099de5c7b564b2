import ObjcSwiftLearning.AxolotlKit.Foundation
import Mathlib.Data.Finset.Card

/-!
# The unread indicator

`ThreadUtil` enumerates a conversation backwards to find where its unread indicator goes, and
what unseen messages there are before it.

* `enumerateInReverse` — the enumeration, with its two ways to stop.
* `ensureUnreadIndicator` — the indicator.
* `IsPlace` — where the indicator belongs; `IsPlace.unique` — there is one such place.
* `enumerateInReverse_cases` — **the enumeration ends at that place,** or finds nothing unseen.
* `indicates_iff` — **the indicator tells what is unseen** if and only if the unseen interactions
  do not just fill the range, and there is little else to count.
-/

namespace ObjcSwiftLearning.SignalMessaging

open AxolotlKit

/-! ## Interactions -/

inductive ThreadInteractionClass where
  | dynamicInteraction
  /-- `TSInvalidIdentityKeyErrorMessage`, with its `throws_newIdentityKey` where there is one. -/
  | blockingSafetyNumberChange (newIdentityKey : Option NSData)
  /-- `TSErrorMessage` of type `TSErrorMessageNonBlockingIdentityChange`. -/
  | nonBlockingSafetyNumberChange
  | message

/-- `TSInteraction`, as a conversation lists it. -/
structure ThreadInteraction where
  interactionClass : ThreadInteractionClass
  timestampForSorting : ℕ

namespace ThreadInteraction

variable (interaction : ThreadInteraction)

def isDynamicInteraction : Bool :=
  match interaction.interactionClass with
  | .dynamicInteraction => true
  | _ => false

def isCounted : Bool := !interaction.isDynamicInteraction

def isNonBlockingSafetyNumberChange : Bool :=
  match interaction.interactionClass with
  | .nonBlockingSafetyNumberChange => true
  | _ => false

/-- The new key, of one of the `blockingSafetyNumberChanges`. -/
def newIdentityKey : Option NSData :=
  match interaction.interactionClass with
  | .blockingSafetyNumberChange newIdentityKey => newIdentityKey
  | _ => none

def isUnseen (firstUnseen : ℕ) : Bool :=
  interaction.isCounted && firstUnseen ≤ interaction.timestampForSorting

end ThreadInteraction

def newIdentityKeys (interactions : List ThreadInteraction) : Finset NSData :=
  (interactions.filterMap (·.newIdentityKey)).toFinset

/-! ## The indicator -/

structure UnseenEnumeration where
  visibleUnseenMessageCount : ℕ
  interactionAfterUnreadIndicator : Option ThreadInteraction
  hasMoreUnseenMessages : Bool

/-- The reverse enumeration of `ensureUnreadIndicator:…`, from what it has found on. -/
def enumerateInReverse (firstUnseen maxRangeSize : ℕ) :
    List ThreadInteraction → UnseenEnumeration → UnseenEnumeration
  | [], found => found
  | interaction :: earlier, found =>
      if interaction.isDynamicInteraction then
        enumerateInReverse firstUnseen maxRangeSize earlier found
      else if interaction.timestampForSorting < firstUnseen then found
      else
        let count := found.visibleUnseenMessageCount + 1
        -- The indicator takes a place of the range, and there may be more before it.
        if maxRangeSize ≤ count + 1 then
          { visibleUnseenMessageCount := count
            interactionAfterUnreadIndicator := some interaction
            hasMoreUnseenMessages := true }
        else
          enumerateInReverse firstUnseen maxRangeSize earlier { found with
            visibleUnseenMessageCount := count
            interactionAfterUnreadIndicator := some interaction }

structure OWSUnreadIndicator where
  timestamp : ℕ
  hasMoreUnseenMessages : Bool
  missingUnseenSafetyNumberChangeCount : ℕ
  unreadIndicatorPosition : ℕ
  firstUnseenInteractionTimestamp : ℕ

/-- The missing safety number changes, with more unseen messages: the blocking ones without
repetition, and all of the others. -/
def missingUnseenSafetyNumberChangeCount (interactions : List ThreadInteraction)
    (firstUnseen : ℕ) (interactionAfterUnreadIndicator : ThreadInteraction) : ℕ :=
  (newIdentityKeys (interactions.filter fun safetyNumberChange =>
      safetyNumberChange.isUnseen firstUnseen &&
        safetyNumberChange.timestampForSorting <
          interactionAfterUnreadIndicator.timestampForSorting)).card +
    (interactions.filter (·.isNonBlockingSafetyNumberChange)).length

def ensureUnreadIndicator (interactions : List ThreadInteraction)
    (shouldHaveContactOffers : Bool) (maxRangeSize : ℕ) (hideUnreadMessagesIndicator : Bool)
    (firstUnseenInteractionTimestamp : Option ℕ) : Option OWSUnreadIndicator :=
  if hideUnreadMessagesIndicator then none
  else
    match firstUnseenInteractionTimestamp with
    | none => none
    | some firstUnseen =>
        let found := enumerateInReverse firstUnseen maxRangeSize interactions.reverse
          ⟨0, none, false⟩
        match found.interactionAfterUnreadIndicator with
        | none => none
        | some interactionAfterUnreadIndicator => some {
            timestamp := interactionAfterUnreadIndicator.timestampForSorting
            hasMoreUnseenMessages := found.hasMoreUnseenMessages
            missingUnseenSafetyNumberChangeCount :=
              if found.hasMoreUnseenMessages then
                missingUnseenSafetyNumberChangeCount interactions firstUnseen
                  interactionAfterUnreadIndicator
              else 0
            unreadIndicatorPosition :=
              if shouldHaveContactOffers then found.visibleUnseenMessageCount + 1
              else found.visibleUnseenMessageCount
            firstUnseenInteractionTimestamp := firstUnseen }

/-! ## Where the indicator belongs -/

/-- The interactions, in the order of the conversation. -/
def IsSorted (interactions : List ThreadInteraction) : Prop :=
  interactions.Pairwise fun earlier later =>
    earlier.timestampForSorting ≤ later.timestampForSorting

instance (interactions : List ThreadInteraction) : Decidable (IsSorted interactions) :=
  inferInstanceAs (Decidable (interactions.Pairwise _))

def countOf (interactions : List ThreadInteraction) : ℕ :=
  (interactions.filter (·.isCounted)).length

/-- The interaction after the indicator: the earliest unseen one among the last
`maxRangeSize - 1` that are counted. -/
structure IsPlace (interactions : List ThreadInteraction) (firstUnseen maxRangeSize : ℕ)
    (before : List ThreadInteraction) (interaction : ThreadInteraction)
    (after : List ThreadInteraction) : Prop where
  split : interactions = before ++ interaction :: after
  unseen : interaction.isUnseen firstUnseen = true
  inRange : countOf after < maxRangeSize - 1
  earliest : ∀ first earlier between, before = first ++ earlier :: between →
    earlier.isUnseen firstUnseen = true →
      maxRangeSize - 1 ≤ countOf (between ++ interaction :: after)

def unseenSafetyNumberChangeCount (firstUnseen : ℕ) (before : List ThreadInteraction) : ℕ :=
  (before.filter fun interaction =>
      interaction.isUnseen firstUnseen && interaction.isNonBlockingSafetyNumberChange).length +
    (newIdentityKeys (before.filter fun interaction => interaction.isUnseen firstUnseen)).card

structure OWSUnreadIndicator.TellsUnseen (indicator : OWSUnreadIndicator)
    (firstUnseen : ℕ) (before : List ThreadInteraction) (interaction : ThreadInteraction)
    (after : List ThreadInteraction) : Prop where
  timestamp : indicator.timestamp = interaction.timestampForSorting
  hasMore : indicator.hasMoreUnseenMessages = true ↔
    ∃ earlier ∈ before, earlier.isUnseen firstUnseen = true
  missing : indicator.missingUnseenSafetyNumberChangeCount =
    unseenSafetyNumberChangeCount firstUnseen before
  reached : (interaction :: after).length ≤ indicator.unreadIndicatorPosition

/-- There is an indicator exactly where something is unseen, and it tells what. -/
structure Indicates (interactions : List ThreadInteraction) (shouldHaveContactOffers : Bool)
    (maxRangeSize firstUnseen : ℕ) : Prop where
  created : (ensureUnreadIndicator interactions shouldHaveContactOffers maxRangeSize false
      (some firstUnseen)).isSome = true ↔
    ∃ interaction ∈ interactions, interaction.isUnseen firstUnseen = true
  placed : ∀ indicator, ensureUnreadIndicator interactions shouldHaveContactOffers maxRangeSize
      false (some firstUnseen) = some indicator →
    ∃ before interaction after,
      IsPlace interactions firstUnseen maxRangeSize before interaction after ∧
        indicator.TellsUnseen firstUnseen before interaction after

/-- The non-blocking safety number changes that are seen, or do not lie before the indicator. -/
def otherNonBlockingCount (firstUnseen : ℕ) (before : List ThreadInteraction)
    (interaction : ThreadInteraction) (after : List ThreadInteraction) : ℕ :=
  (before.filter fun earlier =>
      !earlier.isUnseen firstUnseen && earlier.isNonBlockingSafetyNumberChange).length +
    ((interaction :: after).filter (·.isNonBlockingSafetyNumberChange)).length

def earlierIdentityKeys (firstUnseen : ℕ) (before : List ThreadInteraction)
    (interaction : ThreadInteraction) : Finset NSData :=
  newIdentityKeys (before.filter fun earlier => earlier.isUnseen firstUnseen &&
    earlier.timestampForSorting < interaction.timestampForSorting)

/-- The new keys before the indicator that only changes with its own timestamp have. -/
def tiedIdentityKeys (firstUnseen : ℕ) (before : List ThreadInteraction)
    (interaction : ThreadInteraction) : Finset NSData :=
  newIdentityKeys (before.filter fun earlier => earlier.isUnseen firstUnseen) \
    earlierIdentityKeys firstUnseen before interaction

/-- What little else there may be for an indicator to tell what is unseen: dynamic interactions
after it only as contact offers; and where the range is full, more that is unseen before it, and
as many other non-blocking changes as tied keys. -/
structure IsPlain (shouldHaveContactOffers : Bool) (maxRangeSize firstUnseen : ℕ)
    (before : List ThreadInteraction) (interaction : ThreadInteraction)
    (after : List ThreadInteraction) : Prop where
  offers : (after.filter (·.isDynamicInteraction)).length ≤ shouldHaveContactOffers.toNat
  more : countOf after + 2 = maxRangeSize →
    ∃ earlier ∈ before, earlier.isUnseen firstUnseen = true
  changes : countOf after + 2 = maxRangeSize →
    otherNonBlockingCount firstUnseen before interaction after =
      (tiedIdentityKeys firstUnseen before interaction).card

/-! ## The enumeration -/

variable {interactions before after : List ThreadInteraction} {interaction : ThreadInteraction}
  {firstUnseen maxRangeSize : ℕ}

theorem isUnseen_iff : interaction.isUnseen firstUnseen = true ↔
    interaction.isDynamicInteraction = false ∧ firstUnseen ≤ interaction.timestampForSorting := by
  simp [ThreadInteraction.isUnseen, ThreadInteraction.isCounted]

theorem countOf_cons : countOf (interaction :: after) =
    (if interaction.isDynamicInteraction then 0 else 1) + countOf after := by
  unfold countOf
  cases hdynamic : interaction.isDynamicInteraction with
  | false => simp [ThreadInteraction.isCounted, hdynamic, Nat.add_comm]
  | true => simp [ThreadInteraction.isCounted, hdynamic]

theorem countOf_append : countOf (before ++ after) = countOf before + countOf after := by
  rw [countOf, List.filter_append, List.length_append, countOf, countOf]

theorem countOf_reverse : countOf interactions.reverse = countOf interactions := by
  rw [countOf, List.filter_reverse, List.length_reverse, countOf]

/-- All that is not dynamic is counted. -/
theorem length_eq_countOf_add (interactions : List ThreadInteraction) : interactions.length =
    countOf interactions + (interactions.filter (·.isDynamicInteraction)).length := by
  induction interactions with
  | nil => rfl
  | cons interaction interactions ih =>
      rw [countOf_cons, List.length_cons, ih, List.filter_cons]
      cases interaction.isDynamicInteraction with
      | false => simp; omega
      | true => simp; omega

theorem enumerateInReverse_cases {found : UnseenEnumeration}
    (hsorted : interactions.Pairwise fun later earlier =>
      earlier.timestampForSorting ≤ later.timestampForSorting)
    (hmore : found.hasMoreUnseenMessages = false)
    (hrange : found.visibleUnseenMessageCount + 1 < maxRangeSize) :
    (enumerateInReverse firstUnseen maxRangeSize interactions found = found ∧
      ∀ interaction ∈ interactions, interaction.isUnseen firstUnseen = false) ∨
    ∃ after interaction before, interactions = after ++ interaction :: before ∧
      interaction.isUnseen firstUnseen = true ∧
      found.visibleUnseenMessageCount + countOf after + 1 < maxRangeSize ∧
      enumerateInReverse firstUnseen maxRangeSize interactions found =
        ⟨found.visibleUnseenMessageCount + countOf after + 1, some interaction,
          found.visibleUnseenMessageCount + countOf after + 2 = maxRangeSize⟩ ∧
      (found.visibleUnseenMessageCount + countOf after + 2 ≠ maxRangeSize →
        ∀ earlier ∈ before, earlier.isUnseen firstUnseen = false) := by
  induction interactions generalizing found with
  | nil => exact .inl ⟨rfl, fun _ hmem => by cases hmem⟩
  | cons interaction interactions ih =>
      obtain ⟨hfirst, hsorted⟩ := List.pairwise_cons.mp hsorted
      unfold enumerateInReverse
      by_cases hdynamic : interaction.isDynamicInteraction = true
      · -- a dynamic interaction is passed over
        rw [if_pos hdynamic]
        rcases ih hsorted hmore hrange with ⟨heq, hnone⟩ |
          ⟨after, other, before, hsplit, hunseen, hroom, heq, hlast⟩
        · refine .inl ⟨heq, fun other hmem => ?_⟩
          rcases List.mem_cons.mp hmem with rfl | hmem
          · simp [ThreadInteraction.isUnseen, ThreadInteraction.isCounted, hdynamic]
          · exact hnone other hmem
        · refine .inr ⟨interaction :: after, other, before, by rw [hsplit]; rfl, hunseen, ?_⟩
          rw [countOf_cons, if_pos hdynamic, Nat.zero_add]
          exact ⟨hroom, heq, hlast⟩
      · rw [if_neg hdynamic]
        by_cases hseen : interaction.timestampForSorting < firstUnseen
        · -- all that is left is earlier
          rw [if_pos hseen]
          refine .inl ⟨rfl, fun other hmem => ?_⟩
          rw [← Bool.not_eq_true, isUnseen_iff]
          rintro ⟨-, hle⟩
          rcases List.mem_cons.mp hmem with rfl | hmem
          · omega
          · have := hfirst other hmem
            omega
        · rw [if_neg hseen]
          have hunseen : interaction.isUnseen firstUnseen = true :=
            isUnseen_iff.mpr ⟨by simpa using hdynamic, by omega⟩
          by_cases hstop : maxRangeSize ≤ found.visibleUnseenMessageCount + 1 + 1
          · simp only [if_pos hstop]
            refine .inr ⟨[], interaction, interactions, rfl, hunseen, hrange, ?_, ?_⟩
            · have : found.visibleUnseenMessageCount + 0 + 2 = maxRangeSize := by omega
              simp [countOf, this]
            · intro hne
              have : found.visibleUnseenMessageCount + 0 + 2 = maxRangeSize := by omega
              exact absurd this hne
          · simp only [if_neg hstop]
            have hroom : found.visibleUnseenMessageCount + 1 + 1 < maxRangeSize := by omega
            rcases @ih { found with
                visibleUnseenMessageCount := found.visibleUnseenMessageCount + 1
                interactionAfterUnreadIndicator := some interaction } hsorted hmore hroom with
              ⟨heq, hnone⟩ | ⟨after, other, before, hsplit, hother, hroom, heq, hlast⟩
            · refine .inr ⟨[], interaction, interactions, rfl, hunseen, hrange, ?_, ?_⟩
              · rw [heq, hmore]
                have : found.visibleUnseenMessageCount + 0 + 2 ≠ maxRangeSize := by omega
                simp [countOf, this]
              · exact fun _ => hnone
            · have hcount : found.visibleUnseenMessageCount + countOf (interaction :: after) =
                  found.visibleUnseenMessageCount + 1 + countOf after := by
                rw [countOf_cons, if_neg hdynamic, Nat.add_assoc]
              refine .inr ⟨interaction :: after, other, before, by rw [hsplit]; rfl, hother, ?_⟩
              rw [hcount]
              exact ⟨hroom, heq, hlast⟩

/-! ## The place -/

theorem IsPlace.unique {before' after' : List ThreadInteraction}
    {interaction' : ThreadInteraction}
    (hplace : IsPlace interactions firstUnseen maxRangeSize before interaction after)
    (hplace' : IsPlace interactions firstUnseen maxRangeSize before' interaction' after') :
    before = before' ∧ interaction = interaction' ∧ after = after' := by
  have hne : ∀ {before before' after after' : List ThreadInteraction}
      {interaction interaction' : ThreadInteraction},
      IsPlace interactions firstUnseen maxRangeSize before interaction after →
      IsPlace interactions firstUnseen maxRangeSize before' interaction' after' →
      ∀ between, before = before' ++ between → between = [] := by
    intro before before' after after' interaction interaction' hplace hplace' between hbefore
    cases between with
    | nil => rfl
    | cons other between =>
        have hsplit := hplace.split.symm.trans hplace'.split
        rw [hbefore, List.append_assoc, List.append_cancel_left_eq, List.cons_append,
          List.cons.injEq] at hsplit
        obtain ⟨rfl, hafter⟩ := hsplit
        have hearliest := hplace.earliest before' other between hbefore hplace'.unseen
        rw [hafter] at hearliest
        exact absurd hplace'.inRange (Nat.not_lt.mpr hearliest)
  have hsplit := hplace.split.symm.trans hplace'.split
  have hbefore : before = before' := by
    rcases List.append_eq_append_iff.mp hsplit with ⟨between, hbetween, -⟩ | ⟨between, hbetween, -⟩
    · rw [hbetween, hne hplace' hplace between hbetween, List.append_nil]
    · rw [hbetween, hne hplace hplace' between hbetween, List.append_nil]
  subst hbefore
  obtain ⟨rfl, rfl⟩ := List.cons.inj (List.append_cancel_left hsplit)
  exact ⟨rfl, rfl, rfl⟩

/-- The indicator in front of an interaction. -/
def indicatorAt (interactions : List ThreadInteraction) (shouldHaveContactOffers : Bool)
    (maxRangeSize firstUnseen : ℕ) (interaction : ThreadInteraction)
    (after : List ThreadInteraction) : OWSUnreadIndicator where
  timestamp := interaction.timestampForSorting
  hasMoreUnseenMessages := countOf after + 2 = maxRangeSize
  missingUnseenSafetyNumberChangeCount :=
    if countOf after + 2 = maxRangeSize then
      missingUnseenSafetyNumberChangeCount interactions firstUnseen interaction
    else 0
  unreadIndicatorPosition :=
    if shouldHaveContactOffers then countOf after + 2 else countOf after + 1
  firstUnseenInteractionTimestamp := firstUnseen

theorem ensureUnreadIndicator_cases (hsorted : IsSorted interactions) (hrange : 2 ≤ maxRangeSize)
    (firstUnseen : ℕ) (shouldHaveContactOffers : Bool) :
    (ensureUnreadIndicator interactions shouldHaveContactOffers maxRangeSize false
        (some firstUnseen) = none ∧
      ∀ interaction ∈ interactions, interaction.isUnseen firstUnseen = false) ∨
    ∃ before interaction after,
      IsPlace interactions firstUnseen maxRangeSize before interaction after ∧
      (countOf after + 2 ≠ maxRangeSize →
        ∀ earlier ∈ before, earlier.isUnseen firstUnseen = false) ∧
      ensureUnreadIndicator interactions shouldHaveContactOffers maxRangeSize false
          (some firstUnseen) = some
            (indicatorAt interactions shouldHaveContactOffers maxRangeSize firstUnseen interaction
              after) := by
  rcases @enumerateInReverse_cases interactions.reverse firstUnseen maxRangeSize ⟨0, none, false⟩
      (List.pairwise_reverse.mpr hsorted) rfl (show 0 + 1 < maxRangeSize by omega) with
    ⟨heq, hnone⟩ | ⟨after, interaction, before, hsplit, hunseen, hroom, heq, hlast⟩
  · refine .inl ⟨?_, fun interaction hmem => hnone interaction (List.mem_reverse.mpr hmem)⟩
    simp [ensureUnreadIndicator, heq]
  · simp only [Nat.zero_add] at hroom heq hlast
    refine .inr ⟨before.reverse, interaction, after.reverse, ⟨?_, hunseen, ?_, ?_⟩, ?_, ?_⟩
    · simpa using congrArg List.reverse hsplit
    · rw [countOf_reverse]
      omega
    -- An unseen message before the place means that the range was full there.
    · intro first earlier between hbefore hearlier
      have hmem : earlier ∈ before := List.mem_reverse.mp (by rw [hbefore]; simp)
      have hfull : countOf after + 2 = maxRangeSize := by
        by_contra hne
        rw [hlast hne earlier hmem] at hearlier
        cases hearlier
      have hdynamic : ¬ interaction.isDynamicInteraction = true := by
        rw [(isUnseen_iff.mp hunseen).1]
        exact Bool.false_ne_true
      rw [countOf_append, countOf_cons, if_neg hdynamic, countOf_reverse]
      omega
    · intro hne earlier hmem
      rw [countOf_reverse] at hne
      exact hlast hne earlier (List.mem_reverse.mp hmem)
    · simp [ensureUnreadIndicator, heq, countOf_reverse, indicatorAt]

/-! ## The safety number changes -/

theorem newIdentityKeys_mono (hsub : before.Sublist after) :
    newIdentityKeys before ⊆ newIdentityKeys after := by
  intro key hkey
  rw [newIdentityKeys, List.mem_toFinset] at hkey ⊢
  exact (hsub.filterMap _).subset hkey

theorem missingUnseenSafetyNumberChangeCount_eq (hsorted : IsSorted interactions)
    (hplace : IsPlace interactions firstUnseen maxRangeSize before interaction after) :
    missingUnseenSafetyNumberChangeCount interactions firstUnseen interaction =
      (earlierIdentityKeys firstUnseen before interaction).card +
        ((before.filter (·.isNonBlockingSafetyNumberChange)).length +
          ((interaction :: after).filter (·.isNonBlockingSafetyNumberChange)).length) := by
  have hlater : (interaction :: after).filter (fun later => later.isUnseen firstUnseen &&
      later.timestampForSorting < interaction.timestampForSorting) = [] := by
    rw [IsSorted, hplace.split, List.pairwise_append] at hsorted
    refine List.filter_eq_nil_iff.mpr fun later hmem => ?_
    have hle : interaction.timestampForSorting ≤ later.timestampForSorting := by
      rcases List.mem_cons.mp hmem with rfl | hmem
      · exact Nat.le_refl _
      · exact (List.pairwise_cons.mp hsorted.2.1).1 later hmem
    simp only [Bool.and_eq_true, decide_eq_true_eq, not_and]
    exact fun _ => by omega
  rw [missingUnseenSafetyNumberChangeCount, hplace.split, List.filter_append, hlater,
    List.append_nil, List.filter_append, List.length_append, earlierIdentityKeys]

/-- The changes that are counted are those before the indicator, if and only if there are as many
others as tied keys. -/
theorem missing_eq_iff (hsorted : IsSorted interactions)
    (hplace : IsPlace interactions firstUnseen maxRangeSize before interaction after) :
    missingUnseenSafetyNumberChangeCount interactions firstUnseen interaction =
        unseenSafetyNumberChangeCount firstUnseen before ↔
      otherNonBlockingCount firstUnseen before interaction after =
        (tiedIdentityKeys firstUnseen before interaction).card := by
  have hkeys : (tiedIdentityKeys firstUnseen before interaction).card +
      (earlierIdentityKeys firstUnseen before interaction).card =
        (newIdentityKeys (before.filter fun earlier => earlier.isUnseen firstUnseen)).card := by
    refine Finset.card_sdiff_add_card_eq_card (newIdentityKeys_mono ?_)
    exact List.monotone_filter_right before fun earlier hearlier =>
      (Bool.and_eq_true _ _ ▸ hearlier).1
  have hnonBlocking : (before.filter (·.isNonBlockingSafetyNumberChange)).length =
      (before.filter fun earlier => earlier.isUnseen firstUnseen &&
        earlier.isNonBlockingSafetyNumberChange).length +
      (before.filter fun earlier => !earlier.isUnseen firstUnseen &&
        earlier.isNonBlockingSafetyNumberChange).length := by
    rw [← List.filter_filter, ← List.filter_filter]
    exact List.length_eq_length_filter_add _
  rw [missingUnseenSafetyNumberChangeCount_eq hsorted hplace, hnonBlocking, otherNonBlockingCount,
    unseenSafetyNumberChangeCount]
  omega

theorem unseenSafetyNumberChangeCount_eq_zero
    (hnone : ∀ earlier ∈ before, earlier.isUnseen firstUnseen = false) :
    unseenSafetyNumberChangeCount firstUnseen before = 0 := by
  have hunseen : before.filter (fun earlier => earlier.isUnseen firstUnseen) = [] :=
    List.filter_eq_nil_iff.mpr fun earlier hmem => by simp [hnone earlier hmem]
  have hnonBlocking : before.filter (fun earlier => earlier.isUnseen firstUnseen &&
      earlier.isNonBlockingSafetyNumberChange) = [] :=
    List.filter_eq_nil_iff.mpr fun earlier hmem => by simp [hnone earlier hmem]
  rw [unseenSafetyNumberChangeCount, hunseen, hnonBlocking]
  rfl

/-! ## The indicator tells what is unseen -/

theorem tellsUnseen_iff (hsorted : IsSorted interactions)
    (hplace : IsPlace interactions firstUnseen maxRangeSize before interaction after)
    (hlast : countOf after + 2 ≠ maxRangeSize →
      ∀ earlier ∈ before, earlier.isUnseen firstUnseen = false)
    (shouldHaveContactOffers : Bool) :
    (indicatorAt interactions shouldHaveContactOffers maxRangeSize firstUnseen interaction
        after).TellsUnseen firstUnseen before interaction after ↔
      IsPlain shouldHaveContactOffers maxRangeSize firstUnseen before interaction after := by
  have hposition : (interaction :: after).length ≤
      (if shouldHaveContactOffers then countOf after + 2 else countOf after + 1) ↔
        (after.filter (·.isDynamicInteraction)).length ≤ shouldHaveContactOffers.toNat := by
    rw [List.length_cons, length_eq_countOf_add after]
    cases shouldHaveContactOffers with
    | false =>
        rw [if_neg Bool.false_ne_true, Bool.toNat_false]
        omega
    | true =>
        rw [if_pos rfl, Bool.toNat_true]
        omega
  -- A range that is not full has no unseen message before the place, and nothing is missing.
  by_cases hfull : countOf after + 2 = maxRangeSize
  · constructor
    · intro htells
      refine ⟨hposition.mp htells.reached, fun _ => htells.hasMore.mp (decide_eq_true hfull),
        fun _ => (missing_eq_iff hsorted hplace).mp ?_⟩
      have hmissing := htells.missing
      rwa [indicatorAt, if_pos hfull] at hmissing
    · intro hplain
      refine ⟨rfl, iff_of_true (decide_eq_true hfull) (hplain.more hfull), ?_,
        hposition.mpr hplain.offers⟩
      rw [indicatorAt, if_pos hfull]
      exact (missing_eq_iff hsorted hplace).mpr (hplain.changes hfull)
  · constructor
    · intro htells
      exact ⟨hposition.mp htells.reached, fun h => absurd h hfull, fun h => absurd h hfull⟩
    · intro hplain
      refine ⟨rfl, iff_of_false (by simpa [indicatorAt] using hfull) ?_, ?_,
        hposition.mpr hplain.offers⟩
      · rintro ⟨earlier, hmem, hunseen⟩
        rw [hlast hfull earlier hmem] at hunseen
        cases hunseen
      · rw [indicatorAt, if_neg hfull]
        exact (unseenSafetyNumberChangeCount_eq_zero (hlast hfull)).symm

/-- **There is an indicator exactly where something is unseen, and it tells what,** if and only if,
at its place, dynamic interactions come after it only as contact offers, and a range that is full
leaves out something unseen, with as many other non-blocking changes as tied keys. -/
theorem indicates_iff (hsorted : IsSorted interactions) (hrange : 2 ≤ maxRangeSize)
    (firstUnseen : ℕ) (shouldHaveContactOffers : Bool) :
    Indicates interactions shouldHaveContactOffers maxRangeSize firstUnseen ↔
      ∀ before interaction after,
        IsPlace interactions firstUnseen maxRangeSize before interaction after →
          IsPlain shouldHaveContactOffers maxRangeSize firstUnseen before interaction after := by
  rcases ensureUnreadIndicator_cases hsorted hrange firstUnseen shouldHaveContactOffers with
    ⟨hnone, hseen⟩ | ⟨before, interaction, after, hplace, hlast, hsome⟩
  · refine iff_of_true ⟨?_, fun indicator hindicator => ?_⟩
      fun before interaction after hplace => ?_
    · rw [hnone]
      refine iff_of_false Bool.false_ne_true ?_
      rintro ⟨interaction, hmem, hunseen⟩
      rw [hseen interaction hmem] at hunseen
      cases hunseen
    · rw [hnone] at hindicator
      cases hindicator
    · have hmem : interaction ∈ interactions := by
        rw [hplace.split]
        simp
      have hunseen := hplace.unseen
      rw [hseen interaction hmem] at hunseen
      cases hunseen
  · have htells := tellsUnseen_iff hsorted hplace hlast shouldHaveContactOffers
    constructor
    · intro hindicates before' interaction' after' hplace'
      obtain ⟨rfl, rfl, rfl⟩ := hplace.unique hplace'
      obtain ⟨before', interaction', after', hplace', hother⟩ := hindicates.placed _ hsome
      obtain ⟨rfl, rfl, rfl⟩ := hplace.unique hplace'
      exact htells.mp hother
    · intro hplain
      refine ⟨?_, fun indicator hindicator => ?_⟩
      · rw [hsome]
        refine iff_of_true rfl ⟨interaction, ?_, hplace.unseen⟩
        rw [hplace.split]
        simp
      · cases hsome.symm.trans hindicator
        exact ⟨before, interaction, after, hplace,
          htells.mpr (hplain before interaction after hplace)⟩

/-- Of two unseen messages, with room for the one: the indicator is before the last. -/
theorem indicates_two :
    Indicates [⟨.message, 1⟩, ⟨.message, 2⟩] false 2 1 := by
  refine (indicates_iff (by decide) (by decide) 1 false).mpr ?_
  intro before interaction after hplace
  have hlast : IsPlace [⟨.message, 1⟩, ⟨.message, 2⟩] 1 2 [⟨.message, 1⟩] ⟨.message, 2⟩ [] := by
    refine ⟨rfl, by decide, by decide, fun first earlier between _ _ => ?_⟩
    rw [countOf_append]
    exact Nat.le_add_left _ _
  obtain ⟨rfl, rfl, rfl⟩ := hlast.unique hplace
  exact ⟨by decide, fun _ => ⟨⟨.message, 1⟩, by simp, by decide⟩, fun _ => by decide⟩

theorem full_range : ¬ Indicates [⟨.message, 1⟩] false 2 1 := by
  intro hindicates
  obtain ⟨before, interaction, after, hplace, htells⟩ := hindicates.placed
    ⟨1, true, 0, 1, 1⟩ (by rfl)
  have hsplit := hplace.split
  obtain ⟨earlier, hmem, -⟩ := htells.hasMore.mp rfl
  have hlength := congrArg List.length hsplit
  rw [List.length_append, List.length_cons] at hlength
  have : 0 < before.length := List.length_pos_of_mem hmem
  simp at hlength
  omega

end ObjcSwiftLearning.SignalMessaging
