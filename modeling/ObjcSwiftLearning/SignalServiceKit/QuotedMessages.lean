import ObjcSwiftLearning.SignalServiceKit.ContactShare
import ObjcSwiftLearning.SignalServiceKit.IncomingMessages

/-!
# Quoted messages

An incoming quote names a message by its timestamp and its author.  Its text and its thumbnails
are taken from a local message where there is one.

* `QuoteStore.interactionsWithTimestamp` — the lookup by timestamp, over all threads.
* `QuoteStore.quotedMessageForDataMessage` — the quote of an incoming message.
* `QuoteStore.shows_iff` — **a quote shows the quoted message** if and only if the first message
  with its timestamp in any thread, which is where the text comes from, does no harm.
-/

namespace ObjcSwiftLearning.SignalServiceKit

open AxolotlKit

/-! ## What is stored -/

/-- `TSAttachmentStream`, as far as it can be quoted. -/
structure QuotableStream where
  contentType : String
  sourceFilename : Option String
  fileText : Option String
  thumbnailData : Option NSData

/-- `TSAttachment`, as far as it can be quoted. -/
inductive QuotableAttachment where
  | stream (stream : QuotableStream)
  | pointer

/-- What kind of interaction one is. -/
inductive QuotableClass where
  | incomingMessage (authorId : Option String)
  | outgoingMessage
  | systemMessage
  /-- A call, say. -/
  | otherInteraction
  deriving DecidableEq

/-- `TSInteraction`, as far as it can be quoted. -/
structure QuotableInteraction where
  interactionClass : QuotableClass
  timestamp : UInt64
  uniqueThreadId : String
  body : Option String
  attachmentIds : List String
  deriving DecidableEq

namespace QuotableInteraction

variable (interaction : QuotableInteraction)

/-- `isKindOfClass:[TSMessage class]`. -/
def isMessage : Bool := interaction.interactionClass != .otherInteraction

/-- Written by that author, given our own number; of an incoming message, `messageAuthorId`. -/
def isWrittenBy (localNumber : Option String) (authorId : String) : Bool :=
  match interaction.interactionClass with
  | .incomingMessage messageAuthor =>
      authorId == messageAuthor.getD (contactIdFromThreadId interaction.uniqueThreadId)
  | .outgoingMessage => some authorId == localNumber
  | _ => false

end QuotableInteraction

/-! ## Quotes -/

/-- `SSKProtoDataMessageQuoteQuotedAttachment`. -/
structure QuotedAttachmentProto where
  contentType : Option String
  fileName : Option String
  thumbnail : Option AttachmentPointerProto

/-- `SSKProtoDataMessageQuote`. -/
structure QuoteProto where
  id : UInt64
  author : String
  text : Option String
  attachments : List QuotedAttachmentProto

/-- The quote has neither text nor attachments. -/
def QuoteProto.IsEmpty (quoteProto : QuoteProto) : Prop :=
  quoteProto.text.getD "" = "" ∧ quoteProto.attachments = []

/-- `TSQuotedMessageContentSource`. -/
inductive QuotedContentSource where
  | unknown
  | ofLocal
  | ofRemote
  deriving DecidableEq

structure ThumbnailStream where
  contentType : String
  sourceFilename : String
  byteCount : UInt32
  data : NSData

/-- `OWSAttachmentInfo`, with the saved attachments in place of their ids. -/
structure OWSAttachmentInfo where
  contentType : Option String
  sourceFilename : Option String
  thumbnailAttachmentStream : Option ThumbnailStream
  thumbnailAttachmentPointer : Option TSAttachmentPointer

structure TSQuotedMessage where
  timestamp : UInt64
  authorId : String
  body : Option String
  bodySource : QuotedContentSource
  quotedAttachments : List OWSAttachmentInfo

/-- What `cloneAsThumbnail` copies of an attachment. -/
def QuotableStream.thumbnailCopy (stream : QuotableStream) : Option ThumbnailStream :=
  stream.thumbnailData.map fun data => {
    contentType := "image/jpeg"
    sourceFilename := "quoted-thumbnail-" ++ stream.sourceFilename.getD "(null)"
    byteCount := data.length.toUInt32
    data }

/-- `cloneAsThumbnail`, given whether the thumbnail is loaded in time and written. -/
def QuotableStream.cloneAsThumbnail (stream : QuotableStream) (clones : Bool) :
    Option ThumbnailStream :=
  if clones then stream.thumbnailCopy else none

/-- The database, as far as quotes are looked up in it, and what a lookup rests on. -/
structure QuoteStore where
  /-- All interactions, as the index enumerates them. -/
  interactions : List QuotableInteraction
  attachments : String → Option QuotableAttachment
  /-- `+[TSAccountManager localNumber]`. -/
  localNumber : Option String
  /-- Whether a timestamp in the index, a column of real numbers, is found by a number. -/
  indexed : UInt64 → ℤ → Bool
  filterStringForDisplay : String → String
  hasThumbnailForMimeType : Option String → Bool
  /-- Whether the thumbnail for the quoted attachment of that index is loaded and written. -/
  clones : ℕ → Bool
  /-- The id of a new pointer for the quoted attachment of that index. -/
  newUniqueId : ℕ → String

namespace QuoteStore

variable (store : QuoteStore)

/-- `interactionsWithTimestamp:filter:withTransaction:`; the query has the timestamp as a signed
number. -/
def interactionsWithTimestamp (timestamp : UInt64) (filter : QuotableInteraction → Bool) :
    List QuotableInteraction :=
  (store.interactions.filter fun interaction =>
    store.indexed interaction.timestamp timestamp.toInt64.toInt).filter filter

/-- `attachmentsWithTransaction:`. -/
def attachmentsOf (interaction : QuotableInteraction) : List QuotableAttachment :=
  interaction.attachmentIds.filterMap store.attachments

/-- `oversizeTextWithTransaction:`. -/
def oversizeText (interaction : QuotableInteraction) : Option String :=
  if interaction.attachmentIds.length ≠ 1 then none
  else
    match (store.attachmentsOf interaction).head? with
    | some (.stream stream) =>
        if stream.contentType ≠ "text/x-signal-plain" then none
        else stream.fileText.map store.filterStringForDisplay
    | _ => none

/-- `bodyTextWithTransaction:`; `body` is itself filtered. -/
def bodyText (interaction : QuotableInteraction) : Option String :=
  match store.oversizeText interaction with
  | some oversizeText => some oversizeText
  | none =>
      let body := (interaction.body.map store.filterStringForDisplay).getD ""
      if body ≠ "" then some (store.filterStringForDisplay body) else none

/-- The local text of a quote: of the first message with its timestamp, in any thread. -/
def localText (quoteProto : QuoteProto) : Option String :=
  match (store.interactionsWithTimestamp quoteProto.id (·.isMessage)).head? with
  | none => none
  | some localRecord => (store.bodyText localRecord).filter (· ≠ "")

/-- The messages that a thumbnail may be derived from. -/
def quotedMessages (timestamp : UInt64) (threadId authorId : String) : List QuotableInteraction :=
  store.interactionsWithTimestamp timestamp fun interaction =>
    threadId == interaction.uniqueThreadId && interaction.isWrittenBy store.localNumber authorId

/-- The stream a thumbnail is derived from: the first attachment, if it was downloaded. -/
def sourceStream (timestamp : UInt64) (threadId authorId : String) : Option QuotableStream :=
  match (store.quotedMessages timestamp threadId authorId).head? with
  | none => none
  | some quotedMessage =>
      match (store.attachmentsOf quotedMessage).head? with
      | some (.stream sourceStream) => some sourceStream
      | _ => none

/-- `tryToDeriveLocalThumbnailWithAttachmentInfo:…`. -/
def tryToDeriveLocalThumbnail (index : ℕ) (contentType : Option String) (timestamp : UInt64)
    (threadId authorId : String) : Option ThumbnailStream :=
  if !store.hasThumbnailForMimeType contentType then none
  else
    match store.sourceStream timestamp threadId authorId with
    | none => none
    | some sourceStream => sourceStream.cloneAsThumbnail (store.clones index)

def attachmentInfo (timestamp : UInt64) (threadId authorId : String) (index : ℕ)
    (quotedAttachment : QuotedAttachmentProto) : OWSAttachmentInfo :=
  let attachmentInfo : OWSAttachmentInfo := {
    contentType := quotedAttachment.contentType
    sourceFilename := quotedAttachment.fileName
    thumbnailAttachmentStream := none
    thumbnailAttachmentPointer := none }
  match store.tryToDeriveLocalThumbnail index quotedAttachment.contentType timestamp threadId
      authorId with
  | some thumbnailStream => { attachmentInfo with thumbnailAttachmentStream := thumbnailStream }
  | none =>
      match quotedAttachment.thumbnail with
      | some thumbnailAttachmentProto => { attachmentInfo with
          thumbnailAttachmentPointer :=
            attachmentPointerFromProto (store.newUniqueId index) thumbnailAttachmentProto }
      | none => attachmentInfo

def quotedBody (quoteProto : QuoteProto) : Option String × QuotedContentSource :=
  match store.localText quoteProto with
  | some localText => (some localText, .ofLocal)
  | none =>
      if quoteProto.text.getD "" ≠ "" then (quoteProto.text, .ofRemote)
      else if (store.interactionsWithTimestamp quoteProto.id (·.isMessage)).isEmpty then
        (none, .unknown)
      else (none, .ofLocal)

def quotedMessageForDataMessage (quoteProto : QuoteProto) (threadId : String) :
    Option TSQuotedMessage :=
  if quoteProto.id = 0 then none
  else if quoteProto.author = "" then none
  else
    let (body, bodySource) := store.quotedBody quoteProto
    let attachmentInfos := quoteProto.attachments.mapIdx
      (store.attachmentInfo quoteProto.id threadId quoteProto.author)
    if body.getD "" = "" ∧ quoteProto.attachments = [] then none
    else some {
      timestamp := quoteProto.id
      authorId := quoteProto.author
      body
      bodySource
      quotedAttachments := attachmentInfos }

/-! ## What a quote shows -/

/-- The message that a quote names. -/
def IsQuoted (quoteProto : QuoteProto) (threadId : String) (interaction : QuotableInteraction) :
    Prop :=
  interaction ∈ store.interactions ∧ interaction.timestamp = quoteProto.id ∧
    interaction.uniqueThreadId = threadId ∧
      interaction.isWrittenBy store.localNumber quoteProto.author = true

def TextOfQuoted (quoteProto : QuoteProto) (threadId text : String) : Prop :=
  ∃ interaction, store.IsQuoted quoteProto threadId interaction ∧
    store.bodyText interaction = some text

def ThumbnailOfQuoted (quoteProto : QuoteProto) (threadId : String)
    (thumbnail : ThumbnailStream) : Prop :=
  ∃ interaction, store.IsQuoted quoteProto threadId interaction ∧
    ∃ stream, .stream stream ∈ store.attachmentsOf interaction ∧
      stream.thumbnailCopy = some thumbnail

structure Shows (quoteProto : QuoteProto) (threadId : String) : Prop where
  ofLocal : ∀ quoted, store.quotedMessageForDataMessage quoteProto threadId = some quoted →
    quoted.bodySource = .ofLocal → ∀ text, quoted.body = some text →
      store.TextOfQuoted quoteProto threadId text
  ofRemote : ∀ quoted, store.quotedMessageForDataMessage quoteProto threadId = some quoted →
    (quoted.bodySource = .ofLocal → quoted.body = none) →
      quoted.body.getD "" = quoteProto.text.getD ""
  thumbnail : ∀ quoted, store.quotedMessageForDataMessage quoteProto threadId = some quoted →
    ∀ info ∈ quoted.quotedAttachments, ∀ thumbnail,
      info.thumbnailAttachmentStream = some thumbnail →
        store.ThumbnailOfQuoted quoteProto threadId thumbnail
  nothing : store.quotedMessageForDataMessage quoteProto threadId = none ↔
    quoteProto.id = 0 ∨ quoteProto.author = "" ∨ quoteProto.IsEmpty

/-- The text of the first message with the timestamp, if it has one, is that of the quoted message,
and the quote is not empty. -/
def TextFits (quoteProto : QuoteProto) (threadId : String) : Prop :=
  ∀ text, store.localText quoteProto = some text →
    ¬ quoteProto.IsEmpty ∧ store.TextOfQuoted quoteProto threadId text

def ThumbnailFits (quoteProto : QuoteProto) (threadId : String) : Prop :=
  ∀ stream, store.sourceStream quoteProto.id threadId quoteProto.author = some stream →
    ∀ index quotedAttachment, quoteProto.attachments[index]? = some quotedAttachment →
      store.hasThumbnailForMimeType quotedAttachment.contentType = true →
        store.clones index = true → ∀ thumbnail, stream.thumbnailCopy = some thumbnail →
          store.ThumbnailOfQuoted quoteProto threadId thumbnail

/-! ### The text -/

variable {store} {quoteProto : QuoteProto} {threadId : String} {timestamp : UInt64}
  {authorId : String}

theorem ne_empty_of_localText {text : String} (htext : store.localText quoteProto = some text) :
    text ≠ "" := by
  unfold localText at htext
  split at htext
  · cases htext
  · simpa using (Option.filter_eq_some_iff.mp htext).2

theorem quotedBody_of_not_localText (htext : store.localText quoteProto = none) :
    (store.quotedBody quoteProto).1.getD "" = quoteProto.text.getD "" ∧
      ((store.quotedBody quoteProto).2 = .ofLocal → (store.quotedBody quoteProto).1 = none) := by
  have hbody : store.quotedBody quoteProto =
      if quoteProto.text.getD "" ≠ "" then (quoteProto.text, .ofRemote)
      else if (store.interactionsWithTimestamp quoteProto.id (·.isMessage)).isEmpty then
        (none, .unknown)
      else (none, .ofLocal) := by rw [quotedBody, htext]
  rw [hbody]
  by_cases hempty : quoteProto.text.getD "" = ""
  · rw [if_neg (not_not.mpr hempty), hempty]
    split
    · exact ⟨rfl, fun _ => rfl⟩
    · exact ⟨rfl, fun _ => rfl⟩
  · rw [if_pos hempty]
    exact ⟨rfl, fun hsource => by cases hsource⟩

/-! ### The thumbnails -/

theorem thumbnailAttachmentStream_attachmentInfo {index : ℕ}
    {quotedAttachment : QuotedAttachmentProto} :
    (store.attachmentInfo timestamp threadId authorId index
        quotedAttachment).thumbnailAttachmentStream =
      store.tryToDeriveLocalThumbnail index quotedAttachment.contentType timestamp threadId
        authorId := by
  unfold attachmentInfo
  cases htry : store.tryToDeriveLocalThumbnail index quotedAttachment.contentType timestamp
      threadId authorId with
  | some thumbnail => rfl
  | none =>
      cases quotedAttachment.thumbnail with
      | none => rfl
      | some thumbnailAttachmentProto => rfl

theorem tryToDeriveLocalThumbnail_eq_some {index : ℕ} {contentType : Option String}
    {thumbnail : ThumbnailStream} :
    store.tryToDeriveLocalThumbnail index contentType timestamp threadId authorId =
        some thumbnail ↔
      store.hasThumbnailForMimeType contentType = true ∧ store.clones index = true ∧
        ∃ stream, store.sourceStream timestamp threadId authorId = some stream ∧
          stream.thumbnailCopy = some thumbnail := by
  unfold tryToDeriveLocalThumbnail
  cases store.hasThumbnailForMimeType contentType with
  | false => simp
  | true =>
      cases store.sourceStream timestamp threadId authorId with
      | none => simp
      | some stream => cases hclones : store.clones index <;> simp [QuotableStream.cloneAsThumbnail]

/-! ### The quote -/

theorem quotedMessageForDataMessage_eq (hid : quoteProto.id ≠ 0)
    (hauthor : quoteProto.author ≠ "") :
    store.quotedMessageForDataMessage quoteProto threadId =
      if (store.quotedBody quoteProto).1.getD "" = "" ∧ quoteProto.attachments = [] then none
      else some {
        timestamp := quoteProto.id
        authorId := quoteProto.author
        body := (store.quotedBody quoteProto).1
        bodySource := (store.quotedBody quoteProto).2
        quotedAttachments := quoteProto.attachments.mapIdx
          (store.attachmentInfo quoteProto.id threadId quoteProto.author) } := by
  rw [quotedMessageForDataMessage, if_neg hid, if_neg hauthor]

/-- Thumbnails that are derived are those of the quoted message if and only if their source fits. -/
theorem thumbnails_iff :
    (∀ info ∈ quoteProto.attachments.mapIdx
        (store.attachmentInfo quoteProto.id threadId quoteProto.author),
      ∀ thumbnail, info.thumbnailAttachmentStream = some thumbnail →
        store.ThumbnailOfQuoted quoteProto threadId thumbnail) ↔
      store.ThumbnailFits quoteProto threadId := by
  constructor
  · intro hall stream hstream index quotedAttachment hget hmime hclones thumbnail hthumbnail
    obtain ⟨hlt, hget⟩ := List.getElem?_eq_some_iff.mp hget
    refine hall _ (List.mem_mapIdx.mpr ⟨index, hlt, rfl⟩) thumbnail ?_
    rw [thumbnailAttachmentStream_attachmentInfo, hget]
    exact tryToDeriveLocalThumbnail_eq_some.mpr ⟨hmime, hclones, stream, hstream, hthumbnail⟩
  · intro hfits info hinfo thumbnail hthumbnail
    obtain ⟨index, hlt, rfl⟩ := List.mem_mapIdx.mp hinfo
    rw [thumbnailAttachmentStream_attachmentInfo] at hthumbnail
    obtain ⟨hmime, hclones, stream, hstream, hcopy⟩ :=
      tryToDeriveLocalThumbnail_eq_some.mp hthumbnail
    exact hfits stream hstream index _ (List.getElem?_eq_getElem hlt) hmime hclones thumbnail hcopy

theorem shows_iff_of_localText (hid : quoteProto.id ≠ 0) (hauthor : quoteProto.author ≠ "")
    {text : String} (htext : store.localText quoteProto = some text) :
    store.Shows quoteProto threadId ↔
      store.TextFits quoteProto threadId ∧ store.ThumbnailFits quoteProto threadId := by
  have hquoted := @quotedMessageForDataMessage_eq store quoteProto threadId hid hauthor
  rw [quotedBody, htext] at hquoted
  dsimp only at hquoted
  rw [if_neg fun hempty => ne_empty_of_localText htext hempty.1] at hquoted
  constructor
  · intro hshows
    have hsome := hshows.nothing.not.mp (by rw [hquoted]; exact Option.some_ne_none _)
    refine ⟨fun other hother => ?_, thumbnails_iff.mp (hshows.thumbnail _ hquoted)⟩
    cases htext.symm.trans hother
    exact ⟨fun hempty => hsome (.inr (.inr hempty)), hshows.ofLocal _ hquoted rfl text rfl⟩
  · rintro ⟨htextFits, hthumbnailFits⟩
    obtain ⟨hempty, hof⟩ := htextFits text htext
    refine ⟨?_, ?_, ?_, ?_⟩
    · intro quoted hsome _ other hbody
      cases hquoted.symm.trans hsome
      cases hbody
      exact hof
    · intro quoted hsome hsource
      cases hquoted.symm.trans hsome
      cases hsource rfl
    · intro quoted hsome
      cases hquoted.symm.trans hsome
      exact thumbnails_iff.mpr hthumbnailFits
    · rw [hquoted]
      simp [hid, hauthor, hempty]

theorem shows_iff_of_not_localText (hid : quoteProto.id ≠ 0) (hauthor : quoteProto.author ≠ "")
    (htext : store.localText quoteProto = none) :
    store.Shows quoteProto threadId ↔
      store.TextFits quoteProto threadId ∧ store.ThumbnailFits quoteProto threadId := by
  have hquoted := @quotedMessageForDataMessage_eq store quoteProto threadId hid hauthor
  obtain ⟨hbody, hsource⟩ := quotedBody_of_not_localText htext
  rw [hbody] at hquoted
  -- The text fits without more ado, since there is none to compare with.
  have htextFits : store.TextFits quoteProto threadId := fun text hsome => by
    cases htext.symm.trans hsome
  rw [and_iff_right htextFits, ← thumbnails_iff]
  by_cases hempty : quoteProto.text.getD "" = "" ∧ quoteProto.attachments = []
  · rw [if_pos hempty] at hquoted
    have hnone : quoteProto.attachments = [] := hempty.2
    constructor
    · intro _ info hinfo
      rw [hnone] at hinfo
      cases hinfo
    · intro _
      refine ⟨?_, ?_, ?_, ?_⟩
      · intro quoted hsome
        cases hquoted.symm.trans hsome
      · intro quoted hsome
        cases hquoted.symm.trans hsome
      · intro quoted hsome
        cases hquoted.symm.trans hsome
      · exact iff_of_true hquoted (.inr (.inr hempty))
  · rw [if_neg hempty] at hquoted
    constructor
    · intro hshows
      exact hshows.thumbnail _ hquoted
    · intro hthumbnails
      refine ⟨?_, ?_, ?_, ?_⟩
      · intro quoted hsome hlocal text htextOf
        cases hquoted.symm.trans hsome
        cases (hsource hlocal).symm.trans htextOf
      · intro quoted hsome _
        cases hquoted.symm.trans hsome
        exact hbody
      · intro quoted hsome
        cases hquoted.symm.trans hsome
        exact hthumbnails
      · rw [hquoted]
        simp [hid, hauthor, QuoteProto.IsEmpty, hempty]

/-- **A quote shows the quoted message** if and only if it names none, or the first message that
any thread has under its timestamp has no text or the text of the quoted message, in a quote that
is not empty, and the source of its thumbnails is the quoted message too. -/
theorem shows_iff (store : QuoteStore) (quoteProto : QuoteProto) (threadId : String) :
    store.Shows quoteProto threadId ↔
      quoteProto.id = 0 ∨ quoteProto.author = "" ∨
        (store.TextFits quoteProto threadId ∧ store.ThumbnailFits quoteProto threadId) := by
  by_cases hnamed : quoteProto.id = 0 ∨ quoteProto.author = ""
  · have hnone : store.quotedMessageForDataMessage quoteProto threadId = none := by
      unfold quotedMessageForDataMessage
      by_cases hid : quoteProto.id = 0
      · rw [if_pos hid]
      · rw [if_neg hid, if_pos (hnamed.resolve_left hid)]
    rw [← or_assoc, or_iff_left_of_imp (fun _ => hnamed)]
    refine ⟨fun _ => hnamed, fun _ => ⟨?_, ?_, ?_, ?_⟩⟩
    · simp [hnone]
    · simp [hnone]
    · simp [hnone]
    · rw [← or_assoc]
      exact iff_of_true hnone (.inl hnamed)
  · rw [← or_assoc, or_iff_right hnamed]
    obtain ⟨hid, hauthor⟩ := not_or.mp hnamed
    cases htext : store.localText quoteProto with
    | some text => exact shows_iff_of_localText hid hauthor htext
    | none => exact shows_iff_of_not_localText hid hauthor htext

def twoSenders : QuoteStore where
  interactions := [
    { interactionClass := .incomingMessage (some "+2"), timestamp := 5, uniqueThreadId := "c+2",
      body := some "no", attachmentIds := [] },
    { interactionClass := .incomingMessage (some "+1"), timestamp := 5, uniqueThreadId := "c+1",
      body := some "yes", attachmentIds := [] }]
  attachments := fun _ => none
  localNumber := some "+3"
  indexed := fun timestamp number => timestamp.toInt64.toInt == number
  filterStringForDisplay := id
  hasThumbnailForMimeType := fun _ => false
  clones := fun _ => true
  newUniqueId := fun _ => ""

/-- A quote of what the one said shows what the other said. -/
theorem others_words :
    ¬ twoSenders.Shows { id := 5, author := "+1", text := some "yes", attachments := [] }
      "c+1" := by
  intro hshows
  obtain ⟨interaction, ⟨hmem, -, hthread, -⟩, htext⟩ := hshows.ofLocal
    { timestamp := 5, authorId := "+1", body := some "no", bodySource := .ofLocal,
      quotedAttachments := [] } (by rfl) rfl "no" rfl
  rcases List.mem_cons.mp hmem with rfl | hmem
  · exact absurd hthread (by decide)
  · cases List.mem_singleton.mp hmem
    exact absurd htext (by decide)

end QuoteStore

end ObjcSwiftLearning.SignalServiceKit
