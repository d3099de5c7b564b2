import ObjcSwiftLearning.Library.LabelledRun
import ObjcSwiftLearning.Library.Positions
import Mathlib.Data.List.Sort
import Mathlib.Data.Prod.Lex

/-!
# The media gallery

The gallery shows the media messages of a thread.  It loads them a few at a time, around the ones
that it shows, and groups them by month.

* `MediaGallery.ensureGalleryItemsLoaded` — a load, with what is passed to its completion.
* `MediaGallery.IsPartitioned` — the sections partition the items.
* `MediaGallery.IsLoaded` — **every item is loaded once,** namely those at the positions that are
  marked as fetched.
* `MediaGallery.loads_iff` — so it is after every call of a sequence if and only if what each call
  fetches is contiguous.
-/

namespace ObjcSwiftLearning.Signal

open Positions

/-! ## Items -/

structure GalleryDate where
  year : ℤ
  month : ℤ
  deriving DecidableEq

namespace GalleryDate

def toLexOrder (date : GalleryDate) : ℤ ×ₗ ℤ := toLex (date.year, date.month)

theorem toLexOrder_injective : Function.Injective toLexOrder := by
  intro date other heq
  obtain ⟨hyear, hmonth⟩ := Prod.mk.inj (toLex.injective heq)
  cases date
  cases other
  exact congrArg₂ GalleryDate.mk hyear hmonth

instance : LinearOrder GalleryDate := LinearOrder.lift' toLexOrder toLexOrder_injective

end GalleryDate

/-- `MediaGalleryItem`: a message, with its month as the calendar has it. -/
structure MediaGalleryItem where
  uniqueId : String
  timestampForSorting : ℕ
  galleryDate : GalleryDate
  deriving DecidableEq

/-- The `sort` of the standard library by `timestampForSorting`, which need not be stable. -/
structure ItemSort where
  sort : List MediaGalleryItem → List MediaGalleryItem
  perm : ∀ items, (sort items).Perm items
  sorted : ∀ items, (sort items).Pairwise fun lhs rhs =>
    lhs.timestampForSorting ≤ rhs.timestampForSorting

/-- The media messages of a thread, as the view lists them. -/
structure MediaView where
  messages : List MediaGalleryItem
  nodup : messages.Nodup

namespace MediaView

variable (view : MediaView)

/-- `mediaCount(transaction:)`. -/
def mediaCount : ℕ := view.messages.length

/-- `mediaIndex(message:transaction:)`, of a listed message. -/
def mediaIndex (message : MediaGalleryItem) : ℕ := view.messages.idxOf message

/-- `enumerateMediaMessages(range:transaction:)`, with what it enumerates. -/
def enumerateMediaMessages (location length : ℕ) : List MediaGalleryItem :=
  (view.messages.drop location).take length

end MediaView

/-! ## The range of a request -/

inductive GalleryDirection where
  | before
  | after
  | around
  deriving DecidableEq

/-- The range of a request before it is clamped; an amount or a bound that is no `Int` traps. -/
def GalleryDirection.range (direction : GalleryDirection) (initialIndex amount : ℕ) :
    Option (ℤ × ℤ) :=
  if 2 ^ 63 ≤ amount then none
  else
    let (start, stop) : ℤ × ℤ :=
      match direction with
      | .around => (initialIndex - (amount / 2 : ℕ), initialIndex + (amount / 2 : ℕ))
      | .before => (initialIndex - amount, initialIndex)
      | .after => (initialIndex, initialIndex + amount)
    if 2 ^ 63 ≤ stop then none else some (start, stop)

def clamped (mediaCount : ℕ) (bound : ℤ) : ℕ := (max 0 (min bound mediaCount)).toNat

/-! ## The gallery -/

structure MediaGallery where
  galleryItems : List MediaGalleryItem
  sections : GalleryDate → Option (List MediaGalleryItem)
  sectionDates : List GalleryDate
  hasFetchedOldest : Bool
  hasFetchedMostRecent : Bool
  fetchedIndexSet : Finset ℕ
  deletedMessages : List MediaGalleryItem

/-- A call of `ensureGalleryItemsLoaded(_:item:amount:completion:)`. -/
structure GalleryCall where
  direction : GalleryDirection
  item : MediaGalleryItem
  amount : ℕ

/-- The local copies that a load adds to. -/
structure GalleryFetch where
  galleryItems : List MediaGalleryItem
  sections : GalleryDate → Option (List MediaGalleryItem)
  sectionDates : List GalleryDate
  newGalleryItems : List MediaGalleryItem
  newDates : List GalleryDate

/-- An `IndexPath`, of an item in a section. -/
structure GalleryPath where
  row : ℕ
  sectionNumber : ℕ
  deriving DecidableEq

/-- What is passed on to update a collection view. -/
structure GalleryUpdate where
  sectionNumbers : Finset ℕ
  paths : List GalleryPath

def GalleryFetch.append (fetch : GalleryFetch) (item : MediaGalleryItem) : GalleryFetch :=
  match fetch.sections item.galleryDate with
  | some items => { fetch with
      galleryItems := fetch.galleryItems ++ [item]
      sections := Function.update fetch.sections item.galleryDate (some (items ++ [item]))
      newGalleryItems := fetch.newGalleryItems ++ [item] }
  | none =>
      { galleryItems := fetch.galleryItems ++ [item]
        sectionDates := fetch.sectionDates ++ [item.galleryDate]
        sections := Function.update fetch.sections item.galleryDate (some [item])
        newDates := fetch.newDates ++ [item.galleryDate]
        newGalleryItems := fetch.newGalleryItems ++ [item] }

namespace MediaGallery

/-- The gallery before anything is loaded. -/
def initial : MediaGallery where
  galleryItems := []
  sections := fun _ => none
  sectionDates := []
  hasFetchedOldest := false
  hasFetchedMostRecent := false
  fetchedIndexSet := ∅
  deletedMessages := []

variable (sort : ItemSort) (view : MediaView) (gallery : MediaGallery)

def requestSet (call : GalleryCall) : Option (Finset ℕ) :=
  (call.direction.range (view.mediaIndex call.item) call.amount).map fun range =>
    Finset.Ico (clamped view.mediaCount range.1) (clamped view.mediaCount range.2)

/-- Whether a call gets as far as to fetch something. -/
def fetches (requestSet : Finset ℕ) : Bool :=
  let unfetchedSet := requestSet \ gallery.fetchedIndexSet
  let isSubstantialRequest := requestSet.card / 2 < unfetchedSet.card
  let isFetchingEdgeOfGallery :=
    ((gallery.fetchedIndexSet.card : ℤ) - unfetchedSet.card) < requestSet.card
  !decide (requestSet ⊆ gallery.fetchedIndexSet) &&
    (isSubstantialRequest || isFetchingEdgeOfGallery)

/-- The messages that are fetched for the unfetched part of a request: one range. -/
def fetchedMessages (unfetchedSet : Finset ℕ) : List MediaGalleryItem :=
  (view.enumerateMediaMessages (unfetchedSet.min.untopD 0) unfetchedSet.card).filter
    fun message => message ∉ gallery.deletedMessages

/-- The local copies, with some messages. -/
def fetch (messages : List MediaGalleryItem) : GalleryFetch :=
  messages.foldl GalleryFetch.append
    { galleryItems := gallery.galleryItems
      sections := gallery.sections
      sectionDates := gallery.sectionDates
      newGalleryItems := []
      newDates := [] }

def markFetched (unfetchedSet : Finset ℕ) : MediaGallery :=
  let fetchedIndexSet := gallery.fetchedIndexSet ∪ unfetchedSet
  { gallery with
    fetchedIndexSet := fetchedIndexSet
    hasFetchedOldest := fetchedIndexSet.min = WithTop.some 0
    hasFetchedMostRecent := fetchedIndexSet.max = WithBot.some (view.mediaCount - 1) }

def sortFetched (fetch : GalleryFetch) : MediaGallery :=
  { gallery with
    galleryItems := sort.sort fetch.galleryItems
    sections := fun date => (fetch.sections date).map sort.sort
    sectionDates := fetch.sectionDates.mergeSort }

/-- What is passed to the completion: the sections are numbered as they are sorted, and the items
as they were fetched. -/
def completed (fetch : GalleryFetch) : GalleryUpdate :=
  let sectionDates := fetch.sectionDates.mergeSort
  { sectionNumbers := (fetch.newDates.map fun date => sectionDates.idxOf date + 1).toFinset
    paths := fetch.newGalleryItems.map fun galleryItem =>
      { row := ((fetch.sections galleryItem.galleryDate).getD []).idxOf galleryItem
        sectionNumber := sectionDates.idxOf galleryItem.galleryDate + 1 } }

/-- `ensureGalleryItemsLoaded(_:item:amount:completion:)`, with what the completion is passed. -/
def ensureGalleryItemsLoaded (call : GalleryCall) : Option (MediaGallery × GalleryUpdate) :=
  (requestSet view call).map fun requestSet =>
    if gallery.fetches requestSet then
      let unfetchedSet := requestSet \ gallery.fetchedIndexSet
      let fetch := gallery.fetch (gallery.fetchedMessages view unfetchedSet)
      ((gallery.markFetched view unfetchedSet).sortFetched sort fetch, completed fetch)
    else (gallery.sortFetched sort (gallery.fetch []), completed (gallery.fetch []))

/-! ## What is right -/

/-- The sections partition the items by month, all in order. -/
structure IsPartitioned (gallery : MediaGallery) : Prop where
  ascending : gallery.galleryItems.Pairwise fun lhs rhs =>
    lhs.timestampForSorting ≤ rhs.timestampForSorting
  section_perm : ∀ date, ((gallery.sections date).getD []).Perm
    (gallery.galleryItems.filter (·.galleryDate = date))
  section_ascending : ∀ date, ((gallery.sections date).getD []).Pairwise fun lhs rhs =>
    lhs.timestampForSorting ≤ rhs.timestampForSorting
  isSome_section : ∀ date, (gallery.sections date).isSome = true ↔
    ∃ item ∈ gallery.galleryItems, item.galleryDate = date
  mem_sectionDates : ∀ date, date ∈ gallery.sectionDates ↔ (gallery.sections date).isSome = true
  dates_ascending : gallery.sectionDates.Pairwise (· < ·)

/-- Every item is loaded once: the items are those at the positions that are marked. -/
structure IsLoaded (gallery : MediaGallery) : Prop where
  listed : ∀ index ∈ gallery.fetchedIndexSet, index < view.mediaCount
  items : gallery.galleryItems.Perm (itemsAt view.messages gallery.fetchedIndexSet)
  partitioned : gallery.IsPartitioned
  oldest : gallery.hasFetchedOldest = true →
    ∀ message, view.messages[0]? = some message → message ∈ gallery.galleryItems
  mostRecent : gallery.hasFetchedMostRecent = true →
    ∀ message, view.messages[view.mediaCount - 1]? = some message → message ∈ gallery.galleryItems

def FetchesContiguous (gallery : MediaGallery) (call : GalleryCall) : Prop :=
  ∀ requested, requestSet view call = some requested → gallery.fetches requested = true →
    ∃ start stop, requested \ gallery.fetchedIndexSet = Finset.Ico start stop

/-- A call for a listed item. -/
def Step (gallery : MediaGallery) (call : GalleryCall) (after : MediaGallery) : Prop :=
  call.item ∈ view.messages ∧
    ∃ update, gallery.ensureGalleryItemsLoaded sort view call = some (after, update)

/-! ## A fetch -/

variable {sort view gallery} {messages : List MediaGalleryItem} {fetch : GalleryFetch}

/-- What the local copies are after some messages. -/
structure IsFetched (gallery : MediaGallery) (messages : List MediaGalleryItem)
    (fetch : GalleryFetch) : Prop where
  galleryItems : fetch.galleryItems = gallery.galleryItems ++ messages
  newGalleryItems : fetch.newGalleryItems = messages
  sectionDates : fetch.sectionDates = gallery.sectionDates ++ fetch.newDates
  sections : ∀ date, (fetch.sections date).getD [] =
    (gallery.sections date).getD [] ++ messages.filter (·.galleryDate = date)
  isSome_section : ∀ date, (fetch.sections date).isSome = true ↔
    (gallery.sections date).isSome = true ∨ ∃ item ∈ messages, item.galleryDate = date
  mem_newDates : ∀ date, date ∈ fetch.newDates ↔
    gallery.sections date = none ∧ ∃ item ∈ messages, item.galleryDate = date
  nodup_newDates : fetch.newDates.Nodup

section

variable (fetch) (item : MediaGalleryItem)

theorem galleryItems_append : (fetch.append item).galleryItems = fetch.galleryItems ++ [item] := by
  unfold GalleryFetch.append
  cases fetch.sections item.galleryDate <;> rfl

theorem newGalleryItems_append :
    (fetch.append item).newGalleryItems = fetch.newGalleryItems ++ [item] := by
  unfold GalleryFetch.append
  cases fetch.sections item.galleryDate <;> rfl

theorem sections_append :
    (fetch.append item).sections = Function.update fetch.sections item.galleryDate
      (some ((fetch.sections item.galleryDate).getD [] ++ [item])) := by
  unfold GalleryFetch.append
  cases fetch.sections item.galleryDate <;> simp

theorem dates_append :
    ∃ dates, (fetch.append item).newDates = fetch.newDates ++ dates ∧
      (fetch.append item).sectionDates = fetch.sectionDates ++ dates ∧
        dates = if (fetch.sections item.galleryDate).isSome then [] else [item.galleryDate] := by
  unfold GalleryFetch.append
  cases hsection : fetch.sections item.galleryDate with
  | none => exact ⟨[item.galleryDate], rfl, rfl, rfl⟩
  | some items => exact ⟨[], (List.append_nil _).symm, (List.append_nil _).symm, rfl⟩

end

theorem exists_append_iff {item : MediaGalleryItem} {date : GalleryDate} :
    (∃ other ∈ messages ++ [item], other.galleryDate = date) ↔
      (∃ other ∈ messages, other.galleryDate = date) ∨ item.galleryDate = date := by
  simp [or_and_right, exists_or]

theorem IsFetched.append (h : IsFetched gallery messages fetch) (item : MediaGalleryItem) :
    IsFetched gallery (messages ++ [item]) (fetch.append item) := by
  obtain ⟨dates, hnewDates, hsectionDates, hdates⟩ := dates_append fetch item
  have hsome := h.isSome_section item.galleryDate
  refine ⟨?_, ?_, ?_, fun date => ?_, fun date => ?_, fun date => ?_, ?_⟩
  · rw [galleryItems_append, h.galleryItems, List.append_assoc]
  · rw [newGalleryItems_append, h.newGalleryItems]
  · rw [hsectionDates, h.sectionDates, hnewDates, List.append_assoc]
  · rw [sections_append]
    by_cases hdate : date = item.galleryDate
    · subst hdate
      rw [Function.update_self, Option.getD_some, h.sections, List.append_assoc]
      simp
    · rw [Function.update_of_ne hdate, h.sections date]
      simp [Ne.symm hdate]
  · rw [sections_append, exists_append_iff]
    by_cases hdate : date = item.galleryDate
    · subst hdate
      simp
    · rw [Function.update_of_ne hdate, h.isSome_section date, or_iff_left (Ne.symm hdate)]
  · rw [hnewDates, hdates, exists_append_iff, List.mem_append, h.mem_newDates date, and_or_left]
    cases hsection : (fetch.sections item.galleryDate).isSome with
    | true =>
        -- the section is there, or it came with an earlier message
        rw [if_pos rfl, or_iff_left List.not_mem_nil]
        refine (or_iff_left_of_imp ?_).symm
        rintro ⟨hnone, rfl⟩
        exact ⟨hnone, (hsome.mp hsection).resolve_left (by simp [hnone])⟩
    | false =>
        rw [hsection] at hsome
        have hnone := (not_or.mp (hsome.not.mp Bool.false_ne_true)).1
        rw [Option.not_isSome_iff_eq_none] at hnone
        rw [if_neg Bool.false_ne_true, List.mem_singleton]
        refine or_congr_right ⟨?_, fun hdate => hdate.2.symm⟩
        rintro rfl
        exact ⟨hnone, rfl⟩
  · rw [hnewDates, hdates]
    cases hsection : (fetch.sections item.galleryDate).isSome with
    | true => simpa using h.nodup_newDates
    | false =>
        rw [if_neg Bool.false_ne_true]
        refine h.nodup_newDates.append (List.nodup_singleton _) ?_
        rw [List.disjoint_singleton]
        intro hmem
        rw [hsome.mpr (.inr ((h.mem_newDates _).mp hmem).2)] at hsection
        cases hsection

theorem isFetched_fetch (messages : List MediaGalleryItem) :
    IsFetched gallery messages (gallery.fetch messages) := by
  induction messages using List.reverseRecOn with
  | nil => exact ⟨by simp [fetch], rfl, by simp [fetch], by simp [fetch], by simp [fetch],
      by simp [fetch], List.nodup_nil⟩
  | append_singleton messages item ih =>
      rw [fetch, List.foldl_append]
      exact ih.append item

/-! ## Partitions -/

theorem nodup_sectionDates (h : gallery.IsPartitioned)
    (hfetched : IsFetched gallery messages fetch) : fetch.sectionDates.Nodup := by
  rw [hfetched.sectionDates]
  have hnodup : gallery.sectionDates.Nodup := h.dates_ascending.imp fun hlt => ne_of_lt hlt
  refine hnodup.append hfetched.nodup_newDates fun date hold hnew => ?_
  have hsome := (h.mem_sectionDates date).mp hold
  rw [((hfetched.mem_newDates date).mp hnew).1] at hsome
  cases hsome

theorem mem_sectionDates_iff (h : gallery.IsPartitioned)
    (hfetched : IsFetched gallery messages fetch) (date : GalleryDate) :
    date ∈ fetch.sectionDates ↔ (fetch.sections date).isSome = true := by
  rw [hfetched.sectionDates, List.mem_append, h.mem_sectionDates, hfetched.mem_newDates,
    hfetched.isSome_section, ← Option.not_isSome_iff_eq_none]
  by_cases hsome : (gallery.sections date).isSome = true
  · simp [hsome]
  · simp [hsome]

theorem pairwise_mergeSort_of_nodup {dates : List GalleryDate} (hnodup : dates.Nodup) :
    dates.mergeSort.Pairwise (· < ·) := by
  have hnodup' : dates.mergeSort.Nodup := (List.mergeSort_perm _ _).nodup_iff.mpr hnodup
  exact ((List.pairwise_mergeSort' (· ≤ ·) dates).and hnodup').imp
    fun h => lt_of_le_of_ne h.1 h.2

/-- A section, sorted, is a section less its order. -/
theorem perm_getD_map_sort (items : Option (List MediaGalleryItem)) :
    ((items.map sort.sort).getD []).Perm (items.getD []) := by
  cases items with
  | none => exact List.Perm.refl []
  | some items => exact sort.perm items

/-- **The sections partition the items, whatever is fetched.** -/
theorem isPartitioned_sortFetched (h : gallery.IsPartitioned)
    (hfetched : IsFetched gallery messages fetch) (marked : MediaGallery) :
    (marked.sortFetched sort fetch).IsPartitioned := by
  have hitems : (sort.sort fetch.galleryItems).Perm (gallery.galleryItems ++ messages) :=
    (sort.perm _).trans (List.Perm.of_eq hfetched.galleryItems)
  refine ⟨sort.sorted _, fun date => ?_, fun date => ?_, fun date => ?_, fun date => ?_, ?_⟩
  · calc (((fetch.sections date).map sort.sort).getD []).Perm _ := perm_getD_map_sort _
      _ = (gallery.sections date).getD [] ++ messages.filter (·.galleryDate = date) :=
        hfetched.sections date
      _ |>.Perm (gallery.galleryItems.filter (·.galleryDate = date) ++
          messages.filter (·.galleryDate = date)) := (h.section_perm date).append_right _
      _ = (gallery.galleryItems ++ messages).filter (·.galleryDate = date) :=
        (List.filter_append _ _).symm
      _ |>.Perm _ := (hitems.filter _).symm
  · cases hsection : fetch.sections date with
    | none => simp [sortFetched, hsection]
    | some items => simpa [sortFetched, hsection] using sort.sorted items
  · rw [show (marked.sortFetched sort fetch).sections date = (fetch.sections date).map sort.sort
      from rfl, Option.isSome_map, hfetched.isSome_section, h.isSome_section]
    constructor
    · rintro (⟨item, hmem, hdate⟩ | ⟨item, hmem, hdate⟩)
      · exact ⟨item, hitems.mem_iff.mpr (List.mem_append_left _ hmem), hdate⟩
      · exact ⟨item, hitems.mem_iff.mpr (List.mem_append_right _ hmem), hdate⟩
    · rintro ⟨item, hmem, hdate⟩
      rcases List.mem_append.mp (hitems.mem_iff.mp hmem) with hmem | hmem
      · exact .inl ⟨item, hmem, hdate⟩
      · exact .inr ⟨item, hmem, hdate⟩
  · rw [show (marked.sortFetched sort fetch).sections date = (fetch.sections date).map sort.sort
      from rfl, Option.isSome_map, ← mem_sectionDates_iff h hfetched]
    exact (List.mergeSort_perm _ _).mem_iff
  · exact pairwise_mergeSort_of_nodup (nodup_sectionDates h hfetched)

/-! ## A load -/

variable {call : GalleryCall} {after : MediaGallery} {update : GalleryUpdate}

/-- A call fetches nothing, or the part of its request that has not been fetched. -/
theorem ensureGalleryItemsLoaded_cases
    (hload : gallery.ensureGalleryItemsLoaded sort view call = some (after, update)) :
    ∃ requested, requestSet view call = some requested ∧
      (gallery.fetches requested = false ∧
          after = gallery.sortFetched sort (gallery.fetch []) ∧
          update = completed (gallery.fetch []) ∨
        gallery.fetches requested = true ∧ ∃ unfetched messages,
          unfetched = requested \ gallery.fetchedIndexSet ∧
          messages = gallery.fetchedMessages view unfetched ∧
          after = (gallery.markFetched view unfetched).sortFetched sort (gallery.fetch messages) ∧
          update = completed (gallery.fetch messages)) := by
  obtain ⟨requested, hrequested, heq⟩ := Option.map_eq_some_iff.mp hload
  refine ⟨requested, hrequested, ?_⟩
  cases hfetches : gallery.fetches requested with
  | false =>
      rw [if_neg (by simp [hfetches])] at heq
      exact .inl ⟨rfl, (congrArg Prod.fst heq).symm, (congrArg Prod.snd heq).symm⟩
  | true =>
      rw [if_pos hfetches] at heq
      exact .inr ⟨rfl, _, _, rfl, rfl, (congrArg Prod.fst heq).symm, (congrArg Prod.snd heq).symm⟩

theorem lt_mediaCount_of_requested {requested : Finset ℕ}
    (hrequested : requestSet view call = some requested) {index : ℕ} (hmem : index ∈ requested) :
    index < view.mediaCount := by
  obtain ⟨range, -, rfl⟩ := Option.map_eq_some_iff.mp hrequested
  have hlt := (Finset.mem_Ico.mp hmem).2
  unfold clamped at hlt
  omega

theorem nonempty_of_fetches {requested : Finset ℕ} (hfetches : gallery.fetches requested = true) :
    (requested \ gallery.fetchedIndexSet).Nonempty := by
  rw [fetches, Bool.and_eq_true, Bool.not_eq_true', decide_eq_false_iff_not] at hfetches
  exact Finset.sdiff_nonempty.mpr hfetches.1

theorem fetchedMessages_eq (hdeleted : gallery.deletedMessages = []) (unfetched : Finset ℕ) :
    gallery.fetchedMessages view unfetched = itemsAt view.messages
      (Finset.Ico (unfetched.min.untopD 0) (unfetched.min.untopD 0 + unfetched.card)) := by
  rw [fetchedMessages, hdeleted, itemsAt_Ico, MediaView.enumerateMediaMessages]
  simp

/-- The positions that are fetched are the unfetched ones if these are contiguous. -/
theorem Ico_min_card {start stop : ℕ} (hnonempty : (Finset.Ico start stop).Nonempty) :
    Finset.Ico ((Finset.Ico start stop).min.untopD 0)
        ((Finset.Ico start stop).min.untopD 0 + (Finset.Ico start stop).card) =
      Finset.Ico start stop := by
  have hlt := Finset.nonempty_Ico.mp hnonempty
  have hmin : (Finset.Ico start stop).min = WithTop.some start :=
    le_antisymm (Finset.min_le (Finset.mem_Ico.mpr ⟨le_refl start, hlt⟩))
      (Finset.le_min fun index hmem => WithTop.coe_le_coe.mpr (Finset.mem_Ico.mp hmem).1)
  rw [hmin, WithTop.untopD_coe, Nat.card_Ico, Nat.add_sub_cancel' (Nat.le_of_lt hlt)]

theorem isLoaded_initial : initial.IsLoaded view where
  listed := by simp [initial]
  items := by simp [initial, itemsAt_empty]
  partitioned := ⟨List.Pairwise.nil, by simp [initial], by simp [initial], by simp [initial],
    by simp [initial], List.Pairwise.nil⟩
  oldest := by simp [initial]
  mostRecent := by simp [initial]

theorem IsLoaded.sortFetched_nil (h : gallery.IsLoaded view) :
    (gallery.sortFetched sort (gallery.fetch [])).IsLoaded view := by
  have hitems : (gallery.sortFetched sort (gallery.fetch [])).galleryItems.Perm
      gallery.galleryItems := sort.perm _
  exact {
    listed := h.listed
    items := hitems.trans h.items
    partitioned := isPartitioned_sortFetched h.partitioned (isFetched_fetch []) gallery
    oldest := fun holdest message hget => hitems.mem_iff.mpr (h.oldest holdest message hget)
    mostRecent := fun hmost message hget => hitems.mem_iff.mpr (h.mostRecent hmost message hget) }

theorem perm_galleryItems_of_fetch (h : gallery.IsLoaded view)
    (hdeleted : gallery.deletedMessages = []) {unfetched : Finset ℕ} :
    ((gallery.markFetched view unfetched).sortFetched sort
        (gallery.fetch (gallery.fetchedMessages view unfetched))).galleryItems.Perm
      (itemsAt view.messages gallery.fetchedIndexSet ++ itemsAt view.messages
        (Finset.Ico (unfetched.min.untopD 0) (unfetched.min.untopD 0 + unfetched.card))) := by
  rw [← fetchedMessages_eq hdeleted]
  refine (sort.perm _).trans ?_
  rw [(isFetched_fetch _).galleryItems]
  exact h.items.append_right _

section

variable (h : gallery.IsLoaded view) (hdeleted : gallery.deletedMessages = [])
include h hdeleted

/-- **A contiguous fetch keeps every item loaded once.** -/
theorem IsLoaded.of_contiguous {requested unfetched : Finset ℕ}
    (hrequested : requestSet view call = some requested)
    (hfetches : gallery.fetches requested = true)
    (hunfetched : unfetched = requested \ gallery.fetchedIndexSet) {start stop : ℕ}
    (hcontiguous : unfetched = Finset.Ico start stop) :
    ((gallery.markFetched view unfetched).sortFetched sort
      (gallery.fetch (gallery.fetchedMessages view unfetched))).IsLoaded view := by
  have hnonempty : (Finset.Ico start stop).Nonempty := by
    rw [← hcontiguous, hunfetched]
    exact nonempty_of_fetches hfetches
  have hlisted : ∀ index ∈ gallery.fetchedIndexSet ∪ unfetched, index < view.mediaCount := by
    intro index hmem
    rcases Finset.mem_union.mp hmem with hmem | hmem
    · exact h.listed index hmem
    · rw [hunfetched] at hmem
      exact lt_mediaCount_of_requested hrequested (Finset.mem_sdiff.mp hmem).1
  have hperm := @perm_galleryItems_of_fetch sort view gallery h hdeleted unfetched
  have hrange : Finset.Ico (unfetched.min.untopD 0)
      (unfetched.min.untopD 0 + unfetched.card) = unfetched := by
    rw [hcontiguous, Ico_min_card hnonempty]
  have hdisjoint : Disjoint gallery.fetchedIndexSet unfetched := by
    rw [hunfetched]
    exact Finset.disjoint_sdiff
  rw [hrange] at hperm
  have hitems := hperm.trans (itemsAt_union_perm hdisjoint).symm
  have hmem : ∀ index ∈ gallery.fetchedIndexSet ∪ unfetched, ∀ message,
      view.messages[index]? = some message →
        message ∈ ((gallery.markFetched view unfetched).sortFetched sort
          (gallery.fetch (gallery.fetchedMessages view unfetched))).galleryItems :=
    fun index hindex message hget => hitems.mem_iff.mpr (mem_itemsAt.mpr ⟨index, hindex, hget⟩)
  exact {
    listed := hlisted
    items := hitems
    partitioned := isPartitioned_sortFetched h.partitioned (isFetched_fetch _) _
    oldest := fun holdest => hmem 0 (Finset.mem_of_min (of_decide_eq_true holdest))
    mostRecent := fun hmost => hmem _ (Finset.mem_of_max (of_decide_eq_true hmost)) }

/-- **A fetch that is not contiguous misses an item.** -/
theorem not_isLoaded_of_not_contiguous {requested unfetched : Finset ℕ}
    (hrequested : requestSet view call = some requested)
    (hunfetched : unfetched = requested \ gallery.fetchedIndexSet)
    (hcontiguous : ¬ ∃ start stop, unfetched = Finset.Ico start stop) :
    ¬ ((gallery.markFetched view unfetched).sortFetched sort
      (gallery.fetch (gallery.fetchedMessages view unfetched))).IsLoaded view := by
  intro hloaded
  have hperm := @perm_galleryItems_of_fetch sort view gallery h hdeleted unfetched
  -- some unfetched position is not in the range that is fetched instead
  have hmissed : ¬ unfetched ⊆ Finset.Ico (unfetched.min.untopD 0)
      (unfetched.min.untopD 0 + unfetched.card) := fun hsub =>
    hcontiguous ⟨_, _, Finset.eq_of_subset_of_card_le hsub (by simp)⟩
  obtain ⟨index, hindex, hrange⟩ := Finset.not_subset.mp hmissed
  have hindex' := hindex
  rw [hunfetched, Finset.mem_sdiff] at hindex'
  have hlt := lt_mediaCount_of_requested hrequested hindex'.1
  have hget : view.messages[index]? = some view.messages[index] := List.getElem?_eq_getElem hlt
  have hitem := hloaded.items.mem_iff.mpr
    (mem_itemsAt.mpr ⟨index, Finset.mem_union_right _ hindex, hget⟩)
  have hunique : ∀ other, view.messages[other]? = some view.messages[index] → other = index := by
    intro other hother
    obtain ⟨hlt', heq⟩ := List.getElem?_eq_some_iff.mp hother
    exact (List.Nodup.getElem_inj_iff view.nodup).mp heq
  rcases List.mem_append.mp (hperm.mem_iff.mp hitem) with hitem | hitem
  · obtain ⟨other, hother, heq⟩ := mem_itemsAt.mp hitem
    exact hindex'.2 (hunique other heq ▸ hother)
  · obtain ⟨other, hother, heq⟩ := mem_itemsAt.mp hitem
    exact hrange (hunique other heq ▸ hother)

/-! ## Every call -/

theorem isLoaded_step_iff (hstep : Step sort view gallery call after) :
    after.IsLoaded view ↔ FetchesContiguous view gallery call := by
  obtain ⟨-, update, hload⟩ := hstep
  obtain ⟨requested, hrequested, hcases⟩ := ensureGalleryItemsLoaded_cases hload
  have hiff : FetchesContiguous view gallery call ↔ (gallery.fetches requested = true →
      ∃ start stop, requested \ gallery.fetchedIndexSet = Finset.Ico start stop) :=
    ⟨fun hall => hall requested hrequested, fun hone other hother => by
      cases hrequested.symm.trans hother
      exact hone⟩
  rw [hiff]
  rcases hcases with ⟨hskips, rfl, -⟩ | ⟨hfetches, unfetched, messages, hunfetched, rfl, rfl, -⟩
  · rw [hskips]
    exact iff_of_true h.sortFetched_nil fun hfetches => absurd hfetches Bool.false_ne_true
  · rw [hfetches, ← hunfetched, forall_prop_of_true (rfl : true = true)]
    constructor
    · intro hloaded
      by_contra hcontiguous
      exact not_isLoaded_of_not_contiguous h hdeleted hrequested hunfetched hcontiguous hloaded
    · rintro ⟨start, stop, hcontiguous⟩
      exact h.of_contiguous hdeleted hrequested hfetches hunfetched hcontiguous

end

theorem deletedMessages_step (hstep : Step sort view gallery call after) :
    after.deletedMessages = gallery.deletedMessages := by
  obtain ⟨-, update, hload⟩ := hstep
  obtain ⟨requested, -, ⟨-, rfl, -⟩ | ⟨-, unfetched, messages, -, -, rfl, -⟩⟩ :=
    ensureGalleryItemsLoaded_cases hload
  · rfl
  · rfl

theorem deletedMessages_run {calls : List GalleryCall}
    (hrun : LabelledRun (Step sort view) initial calls gallery) : gallery.deletedMessages = [] :=
  hrun.invariant (I := fun _ gallery => gallery.deletedMessages = []) rfl
    fun _ _ _ _ hdeleted hstep => (deletedMessages_step hstep).trans hdeleted

theorem isLoaded_of_everyStep {calls : List GalleryCall}
    (hrun : LabelledRun (Step sort view) initial calls gallery)
    (hevery : LabelledRun.EveryStep (Step sort view) initial calls
      fun _ _ after => after.IsLoaded view) : gallery.IsLoaded view := by
  cases hrun with
  | refl => exact isLoaded_initial
  | tail run last => exact hevery _ _ [] _ _ rfl run last

/-- **The media gallery loads every item once:** in any sequence of calls for listed items, it has
done so after every call if and only if what each call fetches is contiguous. -/
theorem loads_iff (sort : ItemSort) (view : MediaView) (calls : List GalleryCall) :
    LabelledRun.EveryStep (Step sort view) initial calls (fun _ _ after => after.IsLoaded view) ↔
      LabelledRun.EveryStep (Step sort view) initial calls
        fun gallery call _ => FetchesContiguous view gallery call := by
  constructor
  · intro hloaded earlier call later gallery after hcalls hrun hstep
    have hearlier := isLoaded_of_everyStep hrun (by rw [hcalls] at hloaded; exact hloaded.of_append)
    exact (isLoaded_step_iff hearlier (deletedMessages_run hrun) hstep).mp
      (hloaded earlier call later gallery after hcalls hrun hstep)
  · intro hcontiguous earlier call later gallery after hcalls hrun hstep
    have hearlier : gallery.IsLoaded view := by
      rw [hcalls] at hcontiguous
      exact (hrun.restrict hcontiguous.of_append).invariant
        (I := fun _ gallery => gallery.IsLoaded view ∧ gallery.deletedMessages = [])
        ⟨isLoaded_initial, rfl⟩ (fun _ _ _ _ hgallery hstep =>
          ⟨(isLoaded_step_iff hgallery.1 hgallery.2 hstep.1).mpr hstep.2,
            (deletedMessages_step hstep.1).trans hgallery.2⟩) |>.1
    exact (isLoaded_step_iff hearlier (deletedMessages_run hrun) hstep).mpr
      (hcontiguous earlier call later gallery after hcalls hrun hstep)

def stableSort : ItemSort where
  sort := List.insertionSort fun lhs rhs => lhs.timestampForSorting ≤ rhs.timestampForSorting
  perm := List.perm_insertionSort _
  sorted items := by
    have : Std.Total fun lhs rhs : MediaGalleryItem =>
        lhs.timestampForSorting ≤ rhs.timestampForSorting := ⟨fun _ _ => Nat.le_total _ _⟩
    have : IsTrans MediaGalleryItem fun lhs rhs =>
        lhs.timestampForSorting ≤ rhs.timestampForSorting := ⟨fun _ _ _ => Nat.le_trans⟩
    exact List.pairwise_insertionSort _ items

def sixMessages : MediaView where
  messages := ["a", "b", "c", "d", "e", "f"].mapIdx fun index uniqueId =>
    ⟨uniqueId, index + 1, ⟨2018, 12⟩⟩
  nodup := by decide

def aroundFourth (amount : ℕ) : GalleryCall := ⟨.around, ⟨"d", 4, ⟨2018, 12⟩⟩, amount⟩

theorem both_sides : ¬ LabelledRun.EveryStep (Step stableSort sixMessages) initial
    [aroundFourth 2, aroundFourth 6] fun _ _ after => after.IsLoaded sixMessages := by
  intro hevery
  have hfirst : Step stableSort sixMessages initial (aroundFourth 2)
      ((initial.ensureGalleryItemsLoaded stableSort sixMessages (aroundFourth 2)).get rfl).1 :=
    ⟨by decide, _, (Option.some_get rfl).symm⟩
  generalize hgallery : ((initial.ensureGalleryItemsLoaded stableSort sixMessages
    (aroundFourth 2)).get rfl).1 = gallery at hfirst
  have hfetched : gallery.fetchedIndexSet = {2, 3} := by
    rw [← hgallery]
    decide
  have hloaded := hevery [] _ [aroundFourth 6] _ _ rfl .refl hfirst
  obtain ⟨after, update, hsecond⟩ : ∃ after update,
      gallery.ensureGalleryItemsLoaded stableSort sixMessages (aroundFourth 6) =
        some (after, update) := ⟨_, _, rfl⟩
  have hstep : Step stableSort sixMessages gallery (aroundFourth 6) after :=
    ⟨by decide, update, hsecond⟩
  have hcontiguous := (isLoaded_step_iff hloaded (deletedMessages_step hfirst) hstep).mp
    (hevery [aroundFourth 2] _ [] _ _ rfl (.tail .refl hfirst) hstep)
  obtain ⟨start, stop, heq⟩ := hcontiguous (Finset.range 6) (by decide) (by
    rw [fetches, hfetched]
    decide)
  rw [hfetched] at heq
  have hzero : 0 ∈ Finset.Ico start stop := by rw [← heq]; decide
  have hfive : 5 ∈ Finset.Ico start stop := by rw [← heq]; decide
  have htwo : 2 ∉ Finset.Ico start stop := by rw [← heq]; decide
  rw [Finset.mem_Ico] at hzero hfive htwo
  omega

end MediaGallery

end ObjcSwiftLearning.Signal
