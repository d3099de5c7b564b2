import ObjcSwiftLearning.Library.LabelledRun

/-!
# The load window of a conversation

A conversation shows the last of its messages.  How many it asks for is remembered; the mapping
covers the last so many items, and grows by each message that is appended.

* `ConversationViewModel` — the model, with the mapping as the number of items that it covers.
* `ConversationViewModel.Sound` — what holds in every state: the mapping covers all items, or no
  fewer than were asked for.
* `ConversationViewModel.windowKept_iff` — **when more is loaded as it should be**: where the
  mapping covers more than was asked for, the sum of what was asked for and of what is to be
  loaded falls short.
-/

namespace ObjcSwiftLearning.Signal

/-- A message of a thread, as far as a quote finds it. -/
structure ThreadInteraction where
  uniqueId : String
  timestamp : ℕ
  authorId : String
  deriving DecidableEq

/-- `OWSQuotedReplyModel`, as far as the quoted message is looked for. -/
structure OWSQuotedReplyModel where
  timestamp : ℕ
  authorId : String
  isRemotelySourced : Bool

structure ThreadDynamicInteractions where
  focusMessagePosition : Option ℕ
  unreadIndicatorPosition : Option ℕ

/-- `ConversationViewModel`, with the items of its group and the number of them, from the end,
that its mapping covers. -/
structure ConversationViewModel where
  interactions : List ThreadInteraction
  hasFocusMessageOnOpen : Bool
  dynamicInteractions : ThreadDynamicInteractions
  lastRangeLength : ℕ
  /-- `[self.messageMappings numberOfItemsInGroup:self.thread.uniqueId]`. -/
  loadWindowSize : ℕ

namespace ConversationViewModel

/-- `kYapDatabasePageSize`. -/
def pageSize : ℕ := 25

/-- `kYapDatabaseRangeMaxLength`. -/
def rangeMaxLength : ℕ := 25000

variable (model : ConversationViewModel)

/-- `[extension numberOfItemsInGroup:self.thread.uniqueId]`. -/
def threadInteractionCount : ℕ := model.interactions.length

def canLoadMoreItems : Bool :=
  if rangeMaxLength ≤ model.lastRangeLength then false
  else model.loadWindowSize < model.threadInteractionCount

/-- The range length that the focus message and the unread indicator ask for, the first time. -/
def initialRangeLength : ℕ :=
  max
    (if model.hasFocusMessageOnOpen then
      model.dynamicInteractions.focusMessagePosition.elim 0 (1 + ·)
    else 0)
    (model.dynamicInteractions.unreadIndicatorPosition.elim 0 (· + 1))

/-- The range length of `updateMessageMappingRangeOptions`. -/
def rangeLength : ℕ :=
  min
    (max
      (max (if model.lastRangeLength = 0 then model.initialRangeLength else 0) pageSize)
      model.lastRangeLength)
    rangeMaxLength

def updateMessageMappingRangeOptions : ConversationViewModel :=
  { model with
    lastRangeLength := model.rangeLength
    loadWindowSize := min model.rangeLength model.threadInteractionCount }

def resetMappings (dynamicInteractions : ThreadDynamicInteractions) : ConversationViewModel :=
  { model.updateMessageMappingRangeOptions with dynamicInteractions }

def loadNMoreMessages (numberOfMessagesToLoad : ℕ)
    (dynamicInteractions : ThreadDynamicInteractions) : ConversationViewModel :=
  { model with
    lastRangeLength := min (model.lastRangeLength + numberOfMessagesToLoad) rangeMaxLength
    }.resetMappings dynamicInteractions

def loadAnotherPageOfMessages (dynamicInteractions : ThreadDynamicInteractions) :
    ConversationViewModel :=
  model.loadNMoreMessages pageSize dynamicInteractions

def findGroupIndex (interaction : ThreadInteraction) : Option ℕ :=
  model.interactions.findIdx? fun other => other.uniqueId = interaction.uniqueId

def IsInMappings (groupIndex : ℕ) : Prop :=
  model.threadInteractionCount ≤ groupIndex + model.loadWindowSize

instance (groupIndex : ℕ) : Decidable (model.IsInMappings groupIndex) :=
  inferInstanceAs (Decidable (_ ≤ _))

def additionalItemsToLoad (groupIndex : ℕ) : Int :=
  max 0 (max 0 (1 + (model.threadInteractionCount : Int) - groupIndex) - model.loadWindowSize)

/-- `ensureLoadWindowContainsQuotedReply:`, up to the mapping; `quotedInteraction` is what
`findInteractionInThreadByTimestamp` finds. -/
def ensureLoadWindowContainsQuotedReply (quotedReply : OWSQuotedReplyModel)
    (quotedInteraction : Option ThreadInteraction)
    (dynamicInteractions : ThreadDynamicInteractions) : ConversationViewModel :=
  if quotedReply.isRemotelySourced then model
  else
    match quotedInteraction.bind model.findGroupIndex with
    | none => model
    | some groupIndex =>
        if model.IsInMappings groupIndex then model
        else if model.additionalItemsToLoad groupIndex < 1 then model
        else
          model.loadNMoreMessages (model.additionalItemsToLoad groupIndex).toNat
            dynamicInteractions

/-- `configure`, when the conversation is opened. -/
def configure (interactions : List ThreadInteraction) (hasFocusMessageOnOpen : Bool)
    (dynamicInteractions : ThreadDynamicInteractions) : ConversationViewModel :=
  { interactions
    hasFocusMessageOnOpen
    dynamicInteractions
    lastRangeLength := 0
    loadWindowSize := interactions.length : ConversationViewModel
    }.updateMessageMappingRangeOptions

/-- A message is appended to the thread; the flexible range takes it in. -/
def append (interaction : ThreadInteraction) : ConversationViewModel :=
  { model with
    interactions := model.interactions ++ [interaction]
    loadWindowSize := model.loadWindowSize + 1 }

/-! ## Runs -/

/-- What may happen; the dynamic interactions are what is found of them then. -/
inductive Event where
  | append (interaction : ThreadInteraction)
  | loadAnotherPageOfMessages (dynamicInteractions : ThreadDynamicInteractions)
  | ensureLoadWindowContainsQuotedReply (quotedReply : OWSQuotedReplyModel)
      (quotedInteraction : Option ThreadInteraction)
      (dynamicInteractions : ThreadDynamicInteractions)

/-- What a quote finds: one of the messages with its timestamp and author, if there is any. -/
def Finds (quotedReply : OWSQuotedReplyModel) (quotedInteraction : Option ThreadInteraction) :
    Prop :=
  match quotedInteraction with
  | some interaction =>
      interaction ∈ model.interactions ∧ interaction.timestamp = quotedReply.timestamp ∧
        interaction.authorId = quotedReply.authorId
  | none =>
      ∀ interaction ∈ model.interactions, interaction.timestamp = quotedReply.timestamp →
        interaction.authorId ≠ quotedReply.authorId

/-- What happens. -/
inductive Step : ConversationViewModel → Event → ConversationViewModel → Prop
  | append {model : ConversationViewModel} (interaction : ThreadInteraction)
      (hfew : model.threadInteractionCount + 1 < rangeMaxLength) :
      Step model (.append interaction) (model.append interaction)
  | loadAnotherPageOfMessages {model : ConversationViewModel}
      (dynamicInteractions : ThreadDynamicInteractions) :
      Step model (.loadAnotherPageOfMessages dynamicInteractions)
        (model.loadAnotherPageOfMessages dynamicInteractions)
  | ensureLoadWindowContainsQuotedReply {model : ConversationViewModel}
      (quotedReply : OWSQuotedReplyModel) (quotedInteraction : Option ThreadInteraction)
      (dynamicInteractions : ThreadDynamicInteractions)
      (hfinds : model.Finds quotedReply quotedInteraction) :
      Step model
        (.ensureLoadWindowContainsQuotedReply quotedReply quotedInteraction dynamicInteractions)
        (model.ensureLoadWindowContainsQuotedReply quotedReply quotedInteraction
          dynamicInteractions)

/-- The load window is as it should be after an event: it has not become smaller; more can be
loaded exactly where something is outside it; another page enlarges it by that page or by what
there is; and a quoted message that is looked for in the thread is inside it. -/
structure WindowKept (model : ConversationViewModel) (event : Event)
    (model' : ConversationViewModel) : Prop where
  notSmaller : model.loadWindowSize ≤ model'.loadWindowSize
  canLoadMore : model'.canLoadMoreItems = true ↔
    model'.loadWindowSize < model'.threadInteractionCount
  page : ∀ dynamicInteractions, event = .loadAnotherPageOfMessages dynamicInteractions →
    model'.loadWindowSize = model.loadWindowSize +
      min pageSize (model.threadInteractionCount - model.loadWindowSize)
  quoted : ∀ quotedReply interaction dynamicInteractions,
    event = .ensureLoadWindowContainsQuotedReply quotedReply (some interaction)
      dynamicInteractions →
    quotedReply.isRemotelySourced = false →
    ∃ groupIndex, model'.findGroupIndex interaction = some groupIndex ∧
      model'.IsInMappings groupIndex

/-- What was asked for and the mapping are in step: another page is loaded where the mapping
covers no more than was asked for, or with the page all items are; a quoted message outside it
is looked for where it covers one item more at most. -/
def InStep (model : ConversationViewModel) : Event → Prop
  | .append _ => True
  | .loadAnotherPageOfMessages _ =>
      model.loadWindowSize ≤ model.lastRangeLength ∨
        model.threadInteractionCount ≤ model.lastRangeLength + pageSize
  | .ensureLoadWindowContainsQuotedReply quotedReply quotedInteraction _ =>
      quotedReply.isRemotelySourced = false →
        ∀ groupIndex, quotedInteraction.bind model.findGroupIndex = some groupIndex →
          ¬model.IsInMappings groupIndex →
          model.loadWindowSize ≤ model.lastRangeLength + 1

/-! ## The invariant -/

/-- The mapping covers all items, or no fewer than were asked for. -/
structure Sound (model : ConversationViewModel) : Prop where
  size_le : model.loadWindowSize ≤ model.threadInteractionCount
  few : model.threadInteractionCount < rangeMaxLength
  page_le : pageSize ≤ model.lastRangeLength
  length_le : model.lastRangeLength ≤ rangeMaxLength
  covers : model.loadWindowSize = model.threadInteractionCount ∨
    model.lastRangeLength ≤ model.loadWindowSize

variable {model model' : ConversationViewModel} {event : Event} {groupIndex n : ℕ}
  {dynamicInteractions : ThreadDynamicInteractions}

theorem rangeLength_bounds : pageSize ≤ model.rangeLength ∧ model.rangeLength ≤ rangeMaxLength := by
  unfold rangeLength pageSize rangeMaxLength
  omega

/-- A range length that has been asked for once is asked for again. -/
theorem rangeLength_eq (hpage : pageSize ≤ model.lastRangeLength)
    (hmax : model.lastRangeLength ≤ rangeMaxLength) :
    model.rangeLength = model.lastRangeLength := by
  have hpos : model.lastRangeLength ≠ 0 := by
    unfold pageSize at hpage
    omega
  rw [rangeLength, if_neg hpos]
  omega

theorem sound_updateMessageMappingRangeOptions
    (hfew : model.threadInteractionCount < rangeMaxLength) :
    model.updateMessageMappingRangeOptions.Sound := by
  have hcount : model.updateMessageMappingRangeOptions.threadInteractionCount =
      model.threadInteractionCount := rfl
  have hlength : model.updateMessageMappingRangeOptions.lastRangeLength = model.rangeLength := rfl
  have hsize : model.updateMessageMappingRangeOptions.loadWindowSize =
      min model.rangeLength model.threadInteractionCount := rfl
  obtain ⟨hpage, hmax⟩ := @rangeLength_bounds model
  refine ⟨?_, hcount ▸ hfew, hlength ▸ hpage, hlength ▸ hmax, ?_⟩
  · rw [hsize, hcount]
    exact Nat.min_le_right _ _
  · rw [hsize, hcount, hlength]
    omega

theorem sound_configure {interactions : List ThreadInteraction} {hasFocusMessageOnOpen : Bool}
    (hfew : interactions.length < rangeMaxLength) :
    (configure interactions hasFocusMessageOnOpen dynamicInteractions).Sound :=
  sound_updateMessageMappingRangeOptions hfew

/-- **What loading does**: the range length is what was asked for before and the number of
messages, and the mapping covers so many items. -/
theorem Sound.loadNMoreMessages (h : model.Sound) :
    (model.loadNMoreMessages n dynamicInteractions).Sound ∧
      (model.loadNMoreMessages n dynamicInteractions).interactions = model.interactions ∧
      (model.loadNMoreMessages n dynamicInteractions).loadWindowSize =
        min (model.lastRangeLength + n) model.threadInteractionCount := by
  have hpage := h.page_le
  have hmax := h.length_le
  have hfew := h.few
  have hlength : ({ model with
      lastRangeLength := min (model.lastRangeLength + n) rangeMaxLength } :
        ConversationViewModel).rangeLength = min (model.lastRangeLength + n) rangeMaxLength := by
    apply rangeLength_eq
    · show pageSize ≤ min (model.lastRangeLength + n) rangeMaxLength
      omega
    · exact Nat.min_le_right _ _
  obtain ⟨h₁, h₂, h₃, h₄, h₅⟩ := @sound_updateMessageMappingRangeOptions { model with
    lastRangeLength := min (model.lastRangeLength + n) rangeMaxLength } hfew
  refine ⟨⟨h₁, h₂, h₃, h₄, h₅⟩, rfl, ?_⟩
  show min _ model.threadInteractionCount = _
  rw [hlength]
  omega

theorem Sound.append (h : model.Sound) (interaction : ThreadInteraction)
    (hfew : model.threadInteractionCount + 1 < rangeMaxLength) :
    (model.append interaction).Sound := by
  have hcount : (model.append interaction).threadInteractionCount =
      model.threadInteractionCount + 1 := List.length_append
  obtain ⟨hsize, -, hpage, hmax, hcovers⟩ := h
  refine ⟨?_, hcount ▸ hfew, hpage, hmax, ?_⟩
  · rw [hcount]
    exact Nat.succ_le_succ hsize
  · rw [hcount]
    show model.loadWindowSize + 1 = model.threadInteractionCount + 1 ∨
      model.lastRangeLength ≤ model.loadWindowSize + 1
    omega

/-- **What looking for a quoted message does**: nothing, where there is none to look for or it is
in the mapping; else it loads what is missing, and one item more. -/
theorem ensureLoadWindowContainsQuotedReply_eq (quotedReply : OWSQuotedReplyModel)
    (quotedInteraction : Option ThreadInteraction) :
    model.ensureLoadWindowContainsQuotedReply quotedReply quotedInteraction
        dynamicInteractions = model ∧
      (quotedReply.isRemotelySourced = false → ∀ groupIndex,
        quotedInteraction.bind model.findGroupIndex = some groupIndex →
          model.IsInMappings groupIndex) ∨
      ∃ groupIndex, quotedReply.isRemotelySourced = false ∧
        quotedInteraction.bind model.findGroupIndex = some groupIndex ∧
        ¬model.IsInMappings groupIndex ∧
        model.ensureLoadWindowContainsQuotedReply quotedReply quotedInteraction
          dynamicInteractions =
          model.loadNMoreMessages
            (1 + model.threadInteractionCount - groupIndex - model.loadWindowSize)
            dynamicInteractions := by
  unfold ensureLoadWindowContainsQuotedReply
  cases hremote : quotedReply.isRemotelySourced with
  | true => exact Or.inl ⟨rfl, fun h => by cases h⟩
  | false =>
      cases hfind : quotedInteraction.bind model.findGroupIndex with
      | none => exact Or.inl ⟨rfl, fun _ groupIndex h => by cases h⟩
      | some groupIndex =>
          by_cases hin : model.IsInMappings groupIndex
          · refine Or.inl ⟨?_, ?_⟩
            · simp only [Bool.false_eq_true, if_false, if_pos hin]
            · rintro - _ ⟨⟩
              exact hin
          · have hout : groupIndex + model.loadWindowSize < model.threadInteractionCount :=
              Nat.lt_of_not_le hin
            -- The message is above the window, so there is an item to load at least.
            have hmore : ¬model.additionalItemsToLoad groupIndex < 1 := by
              unfold additionalItemsToLoad
              omega
            have hadditional : (model.additionalItemsToLoad groupIndex).toNat =
                1 + model.threadInteractionCount - groupIndex - model.loadWindowSize := by
              unfold additionalItemsToLoad
              omega
            refine Or.inr ⟨groupIndex, rfl, rfl, hin, ?_⟩
            simp only [Bool.false_eq_true, if_false, if_neg hin, if_neg hmore, hadditional]

/-- **Every step keeps the invariant.** -/
theorem Sound.step (h : model.Sound) (hstep : Step model event model') : model'.Sound := by
  cases hstep with
  | append interaction hfew => exact h.append interaction hfew
  | loadAnotherPageOfMessages dynamicInteractions => exact h.loadNMoreMessages.1
  | ensureLoadWindowContainsQuotedReply quotedReply quotedInteraction dynamicInteractions hfinds =>
      obtain ⟨heq, -⟩ | ⟨groupIndex, -, -, -, heq⟩ :=
        ensureLoadWindowContainsQuotedReply_eq quotedReply quotedInteraction
      · exact heq ▸ h
      · rw [heq]
        exact h.loadNMoreMessages.1

theorem Sound.canLoadMoreItems_iff (h : model.Sound) :
    model.canLoadMoreItems = true ↔ model.loadWindowSize < model.threadInteractionCount := by
  have hfew := h.few
  rw [canLoadMoreItems]
  split
  · rename_i hmax
    obtain hall | hle := h.covers
    · simp [hall]
    · constructor
      · intro hfalse
        cases hfalse
      · intro hlt
        omega
  · exact decide_eq_true_iff

/-! ## When more is loaded as it should be -/

theorem Sound.windowKept_page_iff (h : model.Sound) :
    WindowKept model (.loadAnotherPageOfMessages dynamicInteractions)
        (model.loadAnotherPageOfMessages dynamicInteractions) ↔
      model.loadWindowSize ≤ model.lastRangeLength ∨
        model.threadInteractionCount ≤ model.lastRangeLength + pageSize := by
  obtain ⟨hsound, hinteractions, hsize⟩ :=
    @Sound.loadNMoreMessages model pageSize dynamicInteractions h
  have hle := h.size_le
  have hcovers := h.covers
  have hpage : 0 < pageSize := by decide
  constructor
  · intro hkept
    have hpage' := hkept.page dynamicInteractions rfl
    rw [loadAnotherPageOfMessages, hsize] at hpage'
    omega
  · intro hstep
    -- What was asked for is what is loaded, or else a page more is all there is.
    have hsize' : (model.loadAnotherPageOfMessages dynamicInteractions).loadWindowSize =
        model.loadWindowSize +
          min pageSize (model.threadInteractionCount - model.loadWindowSize) := by
      rw [loadAnotherPageOfMessages, hsize]
      omega
    refine ⟨?_, hsound.canLoadMoreItems_iff, fun _ _ => hsize', ?_⟩
    · rw [hsize']
      exact Nat.le_add_right _ _
    · intro quotedReply interaction dynamicInteractions hevent
      cases hevent

theorem exists_findGroupIndex {interaction : ThreadInteraction}
    (h : interaction ∈ model.interactions) :
    ∃ groupIndex, model.findGroupIndex interaction = some groupIndex := by
  cases hfind : model.findGroupIndex interaction with
  | some groupIndex => exact ⟨groupIndex, rfl⟩
  | none =>
      have hnot := List.findIdx?_eq_none_iff.mp hfind interaction h
      exact absurd rfl (of_decide_eq_false hnot)

theorem Sound.windowKept_quoted_iff (h : model.Sound) {quotedReply : OWSQuotedReplyModel}
    {quotedInteraction : Option ThreadInteraction}
    (hfinds : model.Finds quotedReply quotedInteraction) :
    WindowKept model
        (.ensureLoadWindowContainsQuotedReply quotedReply quotedInteraction dynamicInteractions)
        (model.ensureLoadWindowContainsQuotedReply quotedReply quotedInteraction
          dynamicInteractions) ↔
      model.InStep
        (.ensureLoadWindowContainsQuotedReply quotedReply quotedInteraction
          dynamicInteractions) := by
  obtain ⟨heq, hin⟩ | ⟨groupIndex, hremote, hfind, hout, heq⟩ :=
    @ensureLoadWindowContainsQuotedReply_eq model dynamicInteractions quotedReply
      quotedInteraction
  -- Nothing is loaded where there is nothing to look for, or it is in the mapping already.
  · rw [heq]
    constructor
    · intro _ hlocal groupIndex hfind hout
      exact absurd (hin hlocal groupIndex hfind) hout
    · intro _
      refine ⟨Nat.le_refl _, h.canLoadMoreItems_iff, ?_, ?_⟩
      · intro dynamicInteractions hevent
        cases hevent
      · intro quotedReply' interaction dynamicInteractions' hevent hlocal
        cases hevent
        obtain ⟨groupIndex, hfind⟩ := exists_findGroupIndex hfinds.1
        exact ⟨groupIndex, hfind, hin hlocal groupIndex hfind⟩
  · obtain ⟨hsound, hinteractions, hsize⟩ := @Sound.loadNMoreMessages model
      (1 + model.threadInteractionCount - groupIndex - model.loadWindowSize) dynamicInteractions h
    rw [heq]
    generalize model.loadNMoreMessages
      (1 + model.threadInteractionCount - groupIndex - model.loadWindowSize)
      dynamicInteractions = loaded at hsound hinteractions hsize
    have hcount : loaded.threadInteractionCount = model.threadInteractionCount :=
      congrArg List.length hinteractions
    have hsame : ∀ interaction, loaded.findGroupIndex interaction =
        model.findGroupIndex interaction := by
      intro interaction
      rw [findGroupIndex, hinteractions, findGroupIndex]
    have hlt : groupIndex + model.loadWindowSize < model.threadInteractionCount :=
      Nat.lt_of_not_le hout
    obtain ⟨interaction, rfl, hinteraction⟩ := Option.bind_eq_some_iff.mp hfind
    -- The message is inside exactly where what is loaded makes up for what was not asked for.
    have hinside : loaded.IsInMappings groupIndex ↔
        model.loadWindowSize ≤ model.lastRangeLength + 1 := by
      rw [IsInMappings, hcount, hsize]
      omega
    constructor
    · intro hkept _ groupIndex' hfind' _
      cases hfind.symm.trans hfind'
      obtain ⟨groupIndex', hfind'', hin⟩ :=
        hkept.quoted quotedReply interaction dynamicInteractions rfl hremote
      rw [hsame, hinteraction] at hfind''
      cases hfind''
      exact hinside.mp hin
    · intro hstep
      have hgrown := hstep hremote groupIndex hfind hout
      refine ⟨?_, hsound.canLoadMoreItems_iff, ?_, ?_⟩
      · rw [hsize]
        omega
      · intro dynamicInteractions hevent
        cases hevent
      · intro quotedReply' interaction' dynamicInteractions' hevent _
        cases hevent
        exact ⟨groupIndex, (hsame interaction).trans hinteraction, hinside.mpr hgrown⟩

theorem Sound.windowKept_append (h : model.Sound) (interaction : ThreadInteraction)
    (hfew : model.threadInteractionCount + 1 < rangeMaxLength) :
    WindowKept model (.append interaction) (model.append interaction) := by
  refine ⟨Nat.le_succ _, (h.append interaction hfew).canLoadMoreItems_iff, ?_, ?_⟩
  · intro dynamicInteractions hevent
    cases hevent
  · intro quotedReply interaction' dynamicInteractions hevent
    cases hevent

/-- **One step**: the window is kept exactly where what was asked for is in step with it. -/
theorem Sound.windowKept_iff_inStep (h : model.Sound) (hstep : Step model event model') :
    WindowKept model event model' ↔ model.InStep event := by
  cases hstep with
  | append interaction hfew => exact iff_of_true (h.windowKept_append interaction hfew) trivial
  | loadAnotherPageOfMessages dynamicInteractions => exact h.windowKept_page_iff
  | ensureLoadWindowContainsQuotedReply quotedReply quotedInteraction dynamicInteractions hfinds =>
      exact h.windowKept_quoted_iff hfinds

/-! ## Every run -/

theorem Sound.of_run {events : List Event} {start : ConversationViewModel} (h : start.Sound)
    (run : LabelledRun Step start events model) : model.Sound := by
  induction run with
  | refl => exact h
  | tail run last ih => exact ih.step last

/-- **The load window is kept in a run exactly where every load finds what was asked for in step
with the mapping.** -/
theorem windowKept_iff {interactions : List ThreadInteraction} {hasFocusMessageOnOpen : Bool}
    {dynamicInteractions : ThreadDynamicInteractions} (hfew : interactions.length < rangeMaxLength)
    (events : List Event) :
    LabelledRun.EveryStep Step
        (configure interactions hasFocusMessageOnOpen dynamicInteractions) events WindowKept ↔
      LabelledRun.EveryStep Step
        (configure interactions hasFocusMessageOnOpen dynamicInteractions) events
        fun model event _ => model.InStep event := by
  have hsound : ∀ {earlier before},
      LabelledRun Step (configure interactions hasFocusMessageOnOpen dynamicInteractions)
        earlier before → before.Sound := fun run => (sound_configure hfew).of_run run
  constructor
  · intro h earlier event later before after hevents run last
    exact ((hsound run).windowKept_iff_inStep last).mp
      (h earlier event later before after hevents run last)
  · intro h earlier event later before after hevents run last
    exact ((hsound run).windowKept_iff_inStep last).mpr
      (h earlier event later before after hevents run last)

/-- A thread of one message, to which one is appended before another page is loaded. -/
theorem windowKept_iff_one :
    LabelledRun.EveryStep Step (configure [⟨"m", 1, "a"⟩] false ⟨none, none⟩)
        [.append ⟨"n", 2, "b"⟩, .loadAnotherPageOfMessages ⟨none, none⟩] WindowKept ↔
      LabelledRun.EveryStep Step (configure [⟨"m", 1, "a"⟩] false ⟨none, none⟩)
        [.append ⟨"n", 2, "b"⟩, .loadAnotherPageOfMessages ⟨none, none⟩]
        fun model event _ => model.InStep event :=
  windowKept_iff (by decide) _

/-- A thread of so many messages. -/
def ofLength (n : ℕ) : List ThreadInteraction :=
  (List.range n).map fun k => ⟨toString k, k + 1, "a"⟩

/-- A message is appended to a hundred, and another page is loaded: it is one item short. -/
theorem not_windowKept_appended :
    ¬∀ (interactions : List ThreadInteraction) (hasFocusMessageOnOpen : Bool)
      (dynamicInteractions : ThreadDynamicInteractions), interactions.length < rangeMaxLength →
      ∀ events : List Event, LabelledRun.EveryStep Step
        (configure interactions hasFocusMessageOnOpen dynamicInteractions) events WindowKept := by
  intro h
  have hlength : (ofLength 100).length = 100 := by
    rw [ofLength, List.length_map, List.length_range]
  have hfew : (ofLength 100).length < rangeMaxLength := by
    rw [hlength]
    decide
  have hroom : (configure (ofLength 100) false ⟨none, none⟩).threadInteractionCount + 1 <
      rangeMaxLength := by
    show (ofLength 100).length + 1 < rangeMaxLength
    rw [hlength]
    decide
  have hkept := h _ false ⟨none, none⟩ hfew
    [.append ⟨"n", 200, "b"⟩, .loadAnotherPageOfMessages ⟨none, none⟩]
    [.append ⟨"n", 200, "b"⟩] (.loadAnotherPageOfMessages ⟨none, none⟩) [] _ _ rfl
    (.single (.append _ hroom)) (.loadAnotherPageOfMessages _)
  -- 26 items are loaded where 25 were asked for, and a page more of these is 50 of 101.
  obtain hle | hle := ((sound_configure hfew).append _ hroom).windowKept_page_iff.mp hkept
  · replace hle : min 25 (ofLength 100).length + 1 ≤ 25 := hle
    rw [hlength] at hle
    omega
  · replace hle : (ofLength 100 ++ [_]).length ≤ 25 + 25 := hle
    rw [List.length_append, hlength] at hle
    omega

end ConversationViewModel

end ObjcSwiftLearning.Signal
