import ObjcSwiftLearning.Signal.MediaGallery
import Mathlib.Data.List.Flatten

/-!
# Batch updates of the media gallery

A collection view shows the sections of a gallery.  It is told of a load or a deletion by section
numbers and index paths, from which it makes the change itself.

* `MediaGallery.delete` — a deletion, with what the delegates are passed.
* `GalleryUpdate.Describes` — what an update means: the larger sections, less what it names, are
  the smaller ones.
* `MediaGallery.describes_delete` — **a deletion is described.**
* `MediaGallery.updates_iff` — **a load is described** if and only if it adds nothing older to a
  month there is.
-/

namespace ObjcSwiftLearning.Signal

open Positions

/-! ## Deletions -/

namespace MediaGallery

/-- One item is deleted, in the loop of `delete(items:initiatedBy:)`; without it, or its section,
the loop is left. -/
def deleteItem (original : MediaGallery) (progress : MediaGallery × GalleryUpdate)
    (item : MediaGalleryItem) : Option (MediaGallery × GalleryUpdate) :=
  let (gallery, update) := progress
  if item ∉ gallery.galleryItems then none
  else if item.galleryDate ∉ gallery.sectionDates then none
  else
    match gallery.sections item.galleryDate with
    | none => none
    | some sectionItems =>
        if item ∉ sectionItems then none
        else if item.galleryDate ∉ original.sectionDates then none
        else
          match original.sections item.galleryDate with
          | none => none
          | some originalSectionItems =>
              if item ∉ originalSectionItems then none
              else
                -- The paths are those of the gallery before the deletion; the section of the
                -- loaders is first.
                let originalSectionNumber := original.sectionDates.idxOf item.galleryDate + 1
                let paths := update.paths ++
                  [⟨originalSectionItems.idxOf item, originalSectionNumber⟩]
                let galleryItems := gallery.galleryItems.erase item
                if sectionItems = [item] then
                  some ({ gallery with
                      galleryItems
                      sections := Function.update gallery.sections item.galleryDate none
                      sectionDates := gallery.sectionDates.erase item.galleryDate },
                    { sectionNumbers := insert originalSectionNumber update.sectionNumbers, paths })
                else
                  some ({ gallery with
                      galleryItems
                      sections := Function.update gallery.sections item.galleryDate
                        (some (sectionItems.erase item)) },
                    { update with paths })

/-- `delete(items:initiatedBy:)`, with what the delegates are passed.  The messages are removed
meanwhile. -/
def delete (gallery : MediaGallery) (items : List MediaGalleryItem) :
    Option (MediaGallery × GalleryUpdate) :=
  items.foldlM (deleteItem gallery)
    ({ gallery with deletedMessages := gallery.deletedMessages ++ items }, ⟨∅, []⟩)

/-- The sections that a collection view shows. -/
def shownSections (gallery : MediaGallery) : List (GalleryDate × List MediaGalleryItem) :=
  gallery.sectionDates.map fun date => (date, (gallery.sections date).getD [])

end MediaGallery

/-! ## What an update means -/

namespace GalleryUpdate

def rows (update : GalleryUpdate) (sectionNumber : ℕ) : Finset ℕ :=
  ((update.paths.filter (·.sectionNumber = sectionNumber)).map (·.row)).toFinset

def remove (update : GalleryUpdate) (sections : List (GalleryDate × List MediaGalleryItem)) :
    List (GalleryDate × List MediaGalleryItem) :=
  withoutFrom update.sectionNumbers 1 (sections.mapIdx fun index shown =>
    (shown.1, without (update.rows (index + 1)) shown.2))

/-- An update names sections and items of the larger sections, which without them are the
smaller. -/
structure Describes (update : GalleryUpdate)
    (larger smaller : List (GalleryDate × List MediaGalleryItem)) : Prop where
  sectionNumbers : ∀ sectionNumber ∈ update.sectionNumbers,
    1 ≤ sectionNumber ∧ sectionNumber ≤ larger.length
  paths : ∀ path ∈ update.paths, ∃ index shown, path.sectionNumber = index + 1 ∧
    larger[index]? = some shown ∧ path.row < shown.2.length
  nodup : update.paths.Nodup
  remove_eq : update.remove larger = smaller

def ofDates (sectionDates dates : List GalleryDate) (items : List MediaGalleryItem)
    (row : MediaGalleryItem → ℕ) : GalleryUpdate where
  sectionNumbers := (dates.map fun date => sectionDates.idxOf date + 1).toFinset
  paths := items.map fun item => ⟨row item, sectionDates.idxOf item.galleryDate + 1⟩

variable {sectionDates dates : List GalleryDate} {items : List MediaGalleryItem}
  {row : MediaGalleryItem → ℕ}

theorem rows_ofDates (hitems : ∀ item ∈ items, item.galleryDate ∈ sectionDates)
    (date : GalleryDate) : (ofDates sectionDates dates items row).rows
      (sectionDates.idxOf date + 1) =
        ((items.filter (·.galleryDate = date)).map row).toFinset := by
  rw [rows, ofDates, List.filter_map, List.map_map]
  congr 2
  refine List.filter_congr fun item hmem => ?_
  simp only [Function.comp, Nat.add_right_cancel_iff, decide_eq_decide]
  exact List.idxOf_inj (hitems item hmem)

theorem remove_ofDates (hnodup : sectionDates.Nodup)
    (hitems : ∀ item ∈ items, item.galleryDate ∈ sectionDates) (hdates : dates ⊆ sectionDates)
    (shown : GalleryDate → List MediaGalleryItem) :
    (ofDates sectionDates dates items row).remove
        (sectionDates.map fun date => (date, shown date)) =
      (sectionDates.filter (· ∉ dates)).map fun date =>
        (date, without ((items.filter (·.galleryDate = date)).map row).toFinset (shown date)) := by
  rw [remove, mapIdx_map_eq_map hnodup]
  simp only [rows_ofDates hitems]
  refine (withoutFrom_eq_filter (· ∈ dates) _ fun index date hget => ?_).trans ?_
  · rw [ofDates, List.mem_toFinset, List.mem_map, ← idxOf_eq_of_getElem? hnodup hget]
    constructor
    · rintro ⟨other, hother, heq⟩
      have : sectionDates.idxOf other = sectionDates.idxOf date := by omega
      rwa [← (List.idxOf_inj (hdates hother)).mp this]
    · exact fun hmem => ⟨date, hmem, by omega⟩
  · simp

/-- By their dates, sections are described by an update with distinct rows of theirs if and only if
what is left of them is. -/
theorem describes_ofDates_iff (hnodup : sectionDates.Nodup)
    (hitems : ∀ item ∈ items, item.galleryDate ∈ sectionDates) (hdates : dates ⊆ sectionDates)
    {shown : GalleryDate → List MediaGalleryItem}
    (hrow : ∀ item ∈ items, row item < (shown item.galleryDate).length)
    (hinj : items.Pairwise fun item other =>
      item.galleryDate = other.galleryDate → row item ≠ row other)
    {smaller : List (GalleryDate × List MediaGalleryItem)} :
    (ofDates sectionDates dates items row).Describes
        (sectionDates.map fun date => (date, shown date)) smaller ↔
      ((sectionDates.filter (· ∉ dates)).map fun date =>
        (date, without ((items.filter (·.galleryDate = date)).map row).toFinset (shown date))) =
          smaller := by
  rw [← remove_ofDates hnodup hitems hdates shown]
  refine ⟨fun hdescribes => hdescribes.remove_eq, fun heq => ⟨?_, ?_, ?_, heq⟩⟩
  · intro sectionNumber hmem
    rw [ofDates, List.mem_toFinset, List.mem_map] at hmem
    obtain ⟨date, hdate, rfl⟩ := hmem
    rw [List.length_map]
    exact ⟨Nat.succ_pos _, List.idxOf_lt_length_of_mem (hdates hdate)⟩
  · intro path hmem
    rw [ofDates, List.mem_map] at hmem
    obtain ⟨item, hitem, rfl⟩ := hmem
    refine ⟨_, (item.galleryDate, shown item.galleryDate), rfl, ?_, hrow item hitem⟩
    have hlt := List.idxOf_lt_length_of_mem (hitems item hitem)
    rw [List.getElem?_map, List.getElem?_eq_getElem hlt, List.getElem_idxOf]
    rfl
  · rw [ofDates]
    refine List.pairwise_map.mpr (hinj.imp_of_mem ?_)
    intro item other hitem hother hne heq
    injection heq with hrows hnumbers
    have hdate := (List.idxOf_inj (hitems item hitem)).mp (Nat.succ.inj hnumbers)
    exact hne hdate hrows

end GalleryUpdate

/-! ## Loads -/

namespace MediaGallery

variable {sort : ItemSort} {view : MediaView} {gallery : MediaGallery}
  {messages : List MediaGalleryItem} {date : GalleryDate}

def messagesFor (view : MediaView) (gallery : MediaGallery) (requested : Finset ℕ) :
    List MediaGalleryItem :=
  if gallery.fetches requested then
    gallery.fetchedMessages view (requested \ gallery.fetchedIndexSet)
  else []

def appendedRows (items new : List MediaGalleryItem) : Finset ℕ :=
  (new.map ((items ++ new).idxOf ·)).toFinset

/-- In every month there is, no new item is older than an item there was.  Where two items have one
timestamp it matters where the sort puts them: less the rows of the new items, the sorted section
has to be the old one. -/
def KeepsPlaces (sort : ItemSort) (gallery : MediaGallery) (messages : List MediaGalleryItem) :
    Prop :=
  ∀ date items, gallery.sections date = some items →
    let new := messages.filter (·.galleryDate = date)
    if ((items ++ new).map (·.timestampForSorting)).Nodup then
      ∀ item ∈ items, ∀ message ∈ new, item.timestampForSorting < message.timestampForSorting
    else without (appendedRows items new) (sort.sort (items ++ new)) = items

/-- Every fetched message is, in the sorted section of its month, at the row reported for it. -/
def AtReportedRows (sort : ItemSort) (gallery : MediaGallery) (messages : List MediaGalleryItem) :
    Prop :=
  ∀ message ∈ messages,
    let items := ((gallery.fetch messages).sections message.galleryDate).getD []
    (sort.sort items)[items.idxOf message]? = some message

def DescribesLoad (sort : ItemSort) (view : MediaView) (gallery : MediaGallery)
    (call : GalleryCall) : Prop :=
  ∀ after update, gallery.ensureGalleryItemsLoaded sort view call = some (after, update) →
    update.Describes after.shownSections gallery.shownSections

theorem nodup_messagesFor (requested : Finset ℕ) : (messagesFor view gallery requested).Nodup := by
  unfold messagesFor
  split
  · exact ((view.nodup.sublist (List.drop_sublist _ _)).sublist (List.take_sublist _ _)).filter _
  · exact List.nodup_nil

/-- A load, fetching or not, in one form. -/
theorem ensureGalleryItemsLoaded_eq_some {call : GalleryCall} {after : MediaGallery}
    {update : GalleryUpdate}
    (hload : gallery.ensureGalleryItemsLoaded sort view call = some (after, update)) :
    ∃ requested, requestSet view call = some requested ∧ ∃ marked : MediaGallery,
      after = marked.sortFetched sort (gallery.fetch (messagesFor view gallery requested)) ∧
        update = completed (gallery.fetch (messagesFor view gallery requested)) := by
  obtain ⟨requested, hrequested, hcases⟩ := ensureGalleryItemsLoaded_cases hload
  refine ⟨requested, hrequested, ?_⟩
  rcases hcases with ⟨hskips, rfl, rfl⟩ | ⟨hfetches, unfetched, messages, rfl, rfl, rfl, rfl⟩
  · have hnone : messagesFor view gallery requested = [] := if_neg (by simp [hskips])
    rw [hnone]
    exact ⟨gallery, rfl, rfl⟩
  · have hsome : messagesFor view gallery requested =
        gallery.fetchedMessages view (requested \ gallery.fetchedIndexSet) := if_pos hfetches
    rw [hsome]
    exact ⟨_, rfl, rfl⟩

theorem filter_not_new {fetch : GalleryFetch} (h : gallery.IsPartitioned)
    (hfetched : IsFetched gallery messages fetch) :
    fetch.sectionDates.mergeSort.filter (· ∉ fetch.newDates) = gallery.sectionDates := by
  have hnodup := nodup_sectionDates h hfetched
  have hperm : (fetch.sectionDates.mergeSort.filter (· ∉ fetch.newDates)).Perm
      gallery.sectionDates := by
    refine ((List.mergeSort_perm _ _).filter _).trans (List.Perm.of_eq ?_)
    rw [hfetched.sectionDates] at hnodup ⊢
    have hdisjoint := (List.nodup_append'.mp hnodup).2.2
    rw [List.filter_append, List.filter_eq_self.mpr, List.filter_eq_nil_iff.mpr, List.append_nil]
    · exact fun date hmem => by simpa using hmem
    · exact fun date hmem => decide_eq_true fun hnew => hdisjoint hmem hnew
  refine hperm.eq_of_pairwise (fun _ _ _ _ hle hge => le_antisymm hle hge) ?_ ?_
  · exact ((pairwise_mergeSort_of_nodup hnodup).filter _).imp fun hlt => le_of_lt hlt
  · exact h.dates_ascending.imp fun hlt => le_of_lt hlt

theorem without_section {fetch : GalleryFetch} (hfetched : IsFetched gallery messages fetch)
    {items : List MediaGalleryItem} (hsection : gallery.sections date = some items) :
    without ((messages.filter (·.galleryDate = date)).map fun item =>
        ((fetch.sections item.galleryDate).getD []).idxOf item).toFinset
        (((fetch.sections date).map sort.sort).getD []) =
      without (appendedRows items (messages.filter (·.galleryDate = date)))
        (sort.sort (items ++ messages.filter (·.galleryDate = date))) := by
  have hgetD := hfetched.sections date
  rw [hsection, Option.getD_some] at hgetD
  have hsome : fetch.sections date =
      some (items ++ messages.filter (·.galleryDate = date)) := by
    have hisSome := (hfetched.isSome_section date).mpr (.inl (by rw [hsection]; rfl))
    obtain ⟨appended, happended⟩ := Option.isSome_iff_exists.mp hisSome
    rw [happended, Option.getD_some] at hgetD
    rw [happended, hgetD]
  have hrows : ((messages.filter (·.galleryDate = date)).map fun item =>
      ((fetch.sections item.galleryDate).getD []).idxOf item) =
        (messages.filter (·.galleryDate = date)).map
          ((items ++ messages.filter (·.galleryDate = date)).idxOf ·) := by
    refine List.map_congr_left fun item hmem => ?_
    have hdate : item.galleryDate = date := of_decide_eq_true (List.mem_filter.mp hmem).2
    rw [hdate, hsome, Option.getD_some]
  rw [hrows, hsome, appendedRows, Option.map_some, Option.getD_some]

/-! ### Where sorting keeps places -/

/-- With the items in front, what is behind them is new, and so is not earlier. -/
theorem later_of_sort_eq_append {items new front back : List MediaGalleryItem}
    (hsplit : sort.sort (items ++ new) = front ++ back) (hfront : front.Perm items) :
    ∀ item ∈ items, ∀ message ∈ new,
      item.timestampForSorting ≤ message.timestampForSorting := by
  intro item hitem message hmessage
  have hback : back.Perm new := by
    have hperm := (sort.perm (items ++ new)).symm.trans (List.Perm.of_eq hsplit)
    exact ((List.perm_append_left_iff items).mp
      (hperm.trans (hfront.append_right back))).symm
  have hsorted := sort.sorted (items ++ new)
  rw [hsplit, List.pairwise_append] at hsorted
  exact hsorted.2.2 item (hfront.mem_iff.mpr hitem) message (hback.mem_iff.mpr hmessage)

theorem without_appendedRows {items new list : List MediaGalleryItem} (hnodup : new.Nodup)
    (hnew : ∀ message ∈ new, message ∉ items) (hlength : list.length = items.length + new.length) :
    without (appendedRows items new) list = list.take items.length := by
  refine without_eq_take fun row hlt => ?_
  rw [appendedRows, List.mem_toFinset, List.mem_map]
  constructor
  · rintro ⟨message, hmem, rfl⟩
    rw [List.idxOf_append_of_notMem (hnew message hmem)]
    exact Nat.le_add_right _ _
  · intro hle
    have hrow : row - items.length < new.length := by omega
    refine ⟨new[row - items.length], List.getElem_mem hrow, ?_⟩
    rw [List.idxOf_append_of_notMem (hnew _ (List.getElem_mem hrow)), hnodup.idxOf_getElem]
    omega

theorem sort_append_eq {items new : List MediaGalleryItem}
    (hdistinct : ((items ++ new).map (·.timestampForSorting)).Nodup)
    (hsorted : items.Pairwise fun lhs rhs => lhs.timestampForSorting ≤ rhs.timestampForSorting)
    (hlater : ∀ item ∈ items, ∀ message ∈ new,
      item.timestampForSorting ≤ message.timestampForSorting) :
    sort.sort (items ++ new) = items ++ sort.sort new := by
  have hmem : ∀ item ∈ items ++ sort.sort new, item ∈ items ++ new := fun item hmem =>
    ((sort.perm new).append_left items).mem_iff.mp hmem
  refine ((sort.perm _).trans ((sort.perm new).append_left items).symm).eq_of_pairwise
    (fun lhs rhs hlhs hrhs hle hge => List.inj_on_of_nodup_map hdistinct
      ((sort.perm _).mem_iff.mp hlhs) (hmem rhs hrhs) (Nat.le_antisymm hle hge)) (sort.sorted _) ?_
  refine List.pairwise_append.mpr ⟨hsorted, sort.sorted new, fun item hitem message hmessage => ?_⟩
  exact hlater item hitem message ((sort.perm new).mem_iff.mp hmessage)

/-- With timestamps that are all different, what is left without the rows of the new items are the
old ones just when nothing older is added. -/
theorem without_appendedRows_eq_iff {items new : List MediaGalleryItem}
    (hdistinct : ((items ++ new).map (·.timestampForSorting)).Nodup)
    (hsorted : items.Pairwise fun lhs rhs => lhs.timestampForSorting ≤ rhs.timestampForSorting) :
    without (appendedRows items new) (sort.sort (items ++ new)) = items ↔
      ∀ item ∈ items, ∀ message ∈ new,
        item.timestampForSorting < message.timestampForSorting := by
  have hapart := hdistinct
  rw [List.map_append, List.nodup_append] at hapart
  obtain ⟨-, hnew, hapart⟩ := hapart
  have hne : ∀ item ∈ items, ∀ message ∈ new,
      item.timestampForSorting ≠ message.timestampForSorting := fun item hitem message hmessage =>
    hapart _ (List.mem_map_of_mem hitem) _ (List.mem_map_of_mem hmessage)
  rw [without_appendedRows hnew.of_map (fun message hmem hitem => hne message hitem message hmem rfl)
    ((sort.perm _).length_eq.trans List.length_append)]
  constructor
  · intro hfront item hitem message hmessage
    exact Nat.lt_of_le_of_ne (later_of_sort_eq_append (List.take_append_drop _ _).symm
      (List.Perm.of_eq hfront) item hitem message hmessage) (hne item hitem message hmessage)
  · intro hlater
    rw [sort_append_eq hdistinct hsorted fun item hitem message hmessage =>
      (hlater item hitem message hmessage).le, List.take_left]

/-- New items are at the rows where they were appended just when they are what is behind. -/
theorem getElem?_idxOf_append_iff {items new list : List MediaGalleryItem}
    (hnodup : (items ++ new).Nodup) (hlength : list.length = items.length + new.length) :
    (∀ message ∈ new, list[(items ++ new).idxOf message]? = some message) ↔
      list.drop items.length = new := by
  obtain ⟨-, hnew, hapart⟩ := List.nodup_append.mp hnodup
  have hrow : ∀ message ∈ new, (items ++ new).idxOf message = items.length + new.idxOf message :=
    fun message hmem => List.idxOf_append_of_notMem fun hitem => hapart _ hitem _ hmem rfl
  constructor
  · intro hrows
    refine List.ext_getElem (by rw [List.length_drop, hlength]; omega) fun row _ hlt => ?_
    have hget := hrows _ (List.getElem_mem hlt)
    rw [hrow _ (List.getElem_mem hlt), hnew.idxOf_getElem, List.getElem?_eq_some_iff] at hget
    rw [List.getElem_drop]
    exact hget.2
  · intro hdrop message hmem
    rw [hrow message hmem, ← List.getElem?_drop, hdrop, List.getElem?_idxOf hmem]

theorem keepsPlaces_iff (h : gallery.IsPartitioned) :
    KeepsPlaces sort gallery messages ↔ ∀ date items, gallery.sections date = some items →
      without (appendedRows items (messages.filter (·.galleryDate = date)))
        (sort.sort (items ++ messages.filter (·.galleryDate = date))) = items := by
  refine forall₂_congr fun date items => forall_congr' fun hitems => ?_
  have hascending := h.section_ascending date
  rw [hitems, Option.getD_some] at hascending
  dsimp only
  split
  · next hdistinct => exact (without_appendedRows_eq_iff hdistinct hascending).symm
  · exact Iff.rfl

theorem describes_completed_iff (h : gallery.IsPartitioned) (hnodup : messages.Nodup)
    (marked : MediaGallery) :
    (completed (gallery.fetch messages)).Describes
        (marked.sortFetched sort (gallery.fetch messages)).shownSections gallery.shownSections ↔
      KeepsPlaces sort gallery messages := by
  have hfetched : IsFetched gallery messages (gallery.fetch messages) := isFetched_fetch messages
  generalize gallery.fetch messages = fetch at hfetched
  have hmem : ∀ date, date ∈ fetch.sectionDates.mergeSort ↔
      (fetch.sections date).isSome = true := fun date =>
    (List.mergeSort_perm _ _).mem_iff.trans (mem_sectionDates_iff h hfetched date)
  have hupdate : completed fetch = GalleryUpdate.ofDates fetch.sectionDates.mergeSort
      fetch.newDates messages fun item =>
        ((fetch.sections item.galleryDate).getD []).idxOf item := by
    rw [completed, hfetched.newGalleryItems]
    rfl
  have hitem : ∀ item ∈ messages, item ∈ (fetch.sections item.galleryDate).getD [] := by
    intro item hitem
    rw [hfetched.sections]
    exact List.mem_append_right _ (List.mem_filter.mpr ⟨hitem, decide_eq_true rfl⟩)
  have hshown : (marked.sortFetched sort fetch).shownSections =
      fetch.sectionDates.mergeSort.map fun date =>
        (date, ((fetch.sections date).map sort.sort).getD []) := rfl
  have hsorted : fetch.sectionDates.mergeSort.Nodup :=
    (List.mergeSort_perm _ _).nodup_iff.mpr (nodup_sectionDates h hfetched)
  -- Section by section, and what is left are the conditions on the rows and dates of the update.
  rw [hupdate, hshown, GalleryUpdate.describes_ofDates_iff hsorted]
  · rw [filter_not_new h hfetched, shownSections, List.map_inj_left]
    rw [keepsPlaces_iff h]
    constructor
    · intro hall date items hsection
      have hdate : date ∈ gallery.sectionDates := by
        rw [h.mem_sectionDates, hsection]
        rfl
      have heq := congrArg Prod.snd (hall date hdate)
      simp only at heq
      rwa [without_section hfetched hsection, hsection, Option.getD_some] at heq
    · intro hkeeps date hdate
      obtain ⟨items, hsection⟩ := Option.isSome_iff_exists.mp ((h.mem_sectionDates date).mp hdate)
      rw [without_section hfetched hsection, hsection, Option.getD_some,
        hkeeps date items hsection]
  · intro item hmessage
    rw [hmem, hfetched.isSome_section]
    exact .inr ⟨item, hmessage, rfl⟩
  · intro date hnew
    rw [hmem, hfetched.isSome_section]
    exact .inr ((hfetched.mem_newDates date).mp hnew).2
  · intro item hmessage
    rw [(perm_getD_map_sort _).length_eq]
    exact List.idxOf_lt_length_of_mem (hitem item hmessage)
  · refine hnodup.imp_of_mem fun {item other} hmessage _ hne hdate hrow => hne ?_
    rw [← hdate] at hrow
    exact (List.idxOf_inj (hitem item hmessage)).mp hrow

theorem nodup_section_append (h : gallery.IsPartitioned)
    (hdistinct : ((gallery.galleryItems ++ messages).map (·.timestampForSorting)).Nodup)
    (date : GalleryDate) :
    (((gallery.sections date).getD [] ++ messages.filter (·.galleryDate = date)).map
      (·.timestampForSorting)).Nodup := by
  have hperm := (h.section_perm date).append_right (messages.filter (·.galleryDate = date))
  rw [← List.filter_append] at hperm
  exact (hperm.map _).nodup_iff.mpr (hdistinct.sublist (List.filter_sublist.map _))

theorem atReportedRows_iff_drop (h : gallery.IsPartitioned)
    (hdistinct : ((gallery.galleryItems ++ messages).map (·.timestampForSorting)).Nodup) :
    AtReportedRows sort gallery messages ↔ ∀ date,
      (sort.sort ((gallery.sections date).getD [] ++ messages.filter (·.galleryDate = date))).drop
        ((gallery.sections date).getD []).length = messages.filter (·.galleryDate = date) := by
  have hrows := fun date => getElem?_idxOf_append_iff
    (nodup_section_append h hdistinct date).of_map ((sort.perm _).length_eq.trans List.length_append)
  constructor
  · intro hreported date
    refine (hrows date).mp fun message hmem => ?_
    obtain ⟨hmessage, hdate⟩ := List.mem_filter.mp hmem
    have hrow := hreported message hmessage
    simp only [(isFetched_fetch messages).sections, of_decide_eq_true hdate] at hrow
    exact hrow
  · intro hdrop message hmessage
    simp only [(isFetched_fetch messages).sections]
    exact (hrows _).mpr (hdrop _) message (List.mem_filter.mpr ⟨hmessage, decide_eq_true rfl⟩)

/-- **Items are where they are reported when nothing older is added** to the items of its month. -/
theorem atReportedRows_iff_later (h : gallery.IsPartitioned)
    (hdistinct : ((gallery.galleryItems ++ messages).map (·.timestampForSorting)).Nodup)
    (hascending : messages.Pairwise fun lhs rhs =>
      lhs.timestampForSorting ≤ rhs.timestampForSorting) :
    AtReportedRows sort gallery messages ↔
      ∀ item ∈ gallery.galleryItems, ∀ message ∈ messages,
        message.galleryDate = item.galleryDate →
          item.timestampForSorting ≤ message.timestampForSorting := by
  have hmem : ∀ date item, item ∈ (gallery.sections date).getD [] ↔
      item ∈ gallery.galleryItems ∧ item.galleryDate = date := fun date item => by
    rw [(h.section_perm date).mem_iff, List.mem_filter, decide_eq_true_iff]
  rw [atReportedRows_iff_drop h hdistinct]
  constructor
  · intro hdrop item hitem message hmessage hdate
    have hsplit := (List.take_append_drop ((gallery.sections item.galleryDate).getD []).length
      (sort.sort ((gallery.sections item.galleryDate).getD [] ++
        messages.filter (·.galleryDate = item.galleryDate)))).symm
    rw [hdrop item.galleryDate] at hsplit
    refine later_of_sort_eq_append hsplit ?_ item ((hmem _ _).mpr ⟨hitem, rfl⟩) message
      (List.mem_filter.mpr ⟨hmessage, decide_eq_true hdate⟩)
    exact (List.perm_append_right_iff _).mp
      ((List.Perm.of_eq hsplit.symm).trans (sort.perm _))
  · intro hlater date
    have hnodup := nodup_section_append h hdistinct date
    rw [sort_append_eq hnodup (h.section_ascending date), List.drop_left]
    · -- What is fetched is in order already.
      rw [List.map_append] at hnodup
      refine (sort.perm _).eq_of_pairwise (fun lhs rhs hlhs hrhs hle hge =>
        List.inj_on_of_nodup_map (List.nodup_append.mp hnodup).2.1 ((sort.perm _).mem_iff.mp hlhs)
          hrhs (Nat.le_antisymm hle hge)) (sort.sorted _) (hascending.filter _)
    · intro item hitem message hmessage
      obtain ⟨hitem, hdate⟩ := (hmem date item).mp hitem
      obtain ⟨hmessage, hdate'⟩ := List.mem_filter.mp hmessage
      exact hlater item hitem message hmessage ((of_decide_eq_true hdate').trans hdate.symm)

/-! ## What a deletion has come to -/

/-- The sections after some items were deleted; those without items are gone. -/
def sectionsWithout (original : MediaGallery) (items : List MediaGalleryItem) (date : GalleryDate) :
    Option (List MediaGalleryItem) :=
  ((original.sections date).map (·.diff (items.filter (·.galleryDate = date)))).filter (· ≠ [])

def updateWithout (original : MediaGallery) (items : List MediaGalleryItem) : GalleryUpdate :=
  .ofDates original.sectionDates
    (original.sectionDates.filter fun date => (sectionsWithout original items date).isNone) items
    fun item => ((original.sections item.galleryDate).getD []).idxOf item

/-- The loop of a deletion, after some items. -/
structure IsDeleted (original : MediaGallery) (items : List MediaGalleryItem)
    (progress : MediaGallery × GalleryUpdate) : Prop where
  galleryItems : progress.1.galleryItems = original.galleryItems.diff items
  sections : progress.1.sections = sectionsWithout original items
  sectionDates : progress.1.sectionDates =
    original.sectionDates.filter fun date => (sectionsWithout original items date).isSome
  update : progress.2 = updateWithout original items

variable {original : MediaGallery} {items : List MediaGalleryItem} {item : MediaGalleryItem}

/-- An item is in the section of its month. -/
theorem IsPartitioned.exists_section (h : original.IsPartitioned)
    (hitem : item ∈ original.galleryItems) :
    ∃ sectionItems, original.sections item.galleryDate = some sectionItems ∧
      item ∈ sectionItems := by
  have hsome := (h.isSome_section item.galleryDate).mpr ⟨item, hitem, rfl⟩
  obtain ⟨sectionItems, hsection⟩ := Option.isSome_iff_exists.mp hsome
  have hperm := h.section_perm item.galleryDate
  rw [hsection, Option.getD_some] at hperm
  exact ⟨sectionItems, hsection,
    hperm.mem_iff.mpr (List.mem_filter.mpr ⟨hitem, decide_eq_true rfl⟩)⟩

theorem IsPartitioned.ne_nil (h : original.IsPartitioned) {sectionItems : List MediaGalleryItem}
    (hsection : original.sections date = some sectionItems) : sectionItems ≠ [] := by
  rintro rfl
  obtain ⟨item, hitem, rfl⟩ := (h.isSome_section date).mp (by rw [hsection]; rfl)
  obtain ⟨sectionItems, hsection', hmem⟩ := h.exists_section hitem
  cases hsection.symm.trans hsection'
  cases hmem

theorem isDeleted_nil (h : original.IsPartitioned) (deletedMessages : List MediaGalleryItem) :
    IsDeleted original [] ({ original with deletedMessages }, ⟨∅, []⟩) := by
  have hsections : sectionsWithout original [] = original.sections := by
    funext date
    unfold sectionsWithout
    cases hsection : original.sections date with
    | none => rfl
    | some sectionItems => simp [h.ne_nil hsection]
  refine ⟨rfl, hsections.symm, ?_, ?_⟩
  · rw [hsections]
    exact (List.filter_eq_self.mpr fun date hdate => (h.mem_sectionDates date).mp hdate).symm
  · rw [updateWithout, hsections, List.filter_eq_nil_iff.mpr]
    · rfl
    · intro date hdate
      simpa [Option.isSome_iff_ne_none] using (h.mem_sectionDates date).mp hdate

theorem sectionsWithout_append_of_ne (hdate : date ≠ item.galleryDate) :
    sectionsWithout original (items ++ [item]) date = sectionsWithout original items date := by
  simp [sectionsWithout, List.filter_append, Ne.symm hdate]

theorem sectionsWithout_append_self {originalItems : List MediaGalleryItem}
    (hsection : original.sections item.galleryDate = some originalItems) :
    sectionsWithout original (items ++ [item]) item.galleryDate =
      (some ((originalItems.diff (items.filter (·.galleryDate = item.galleryDate))).erase
        item)).filter (· ≠ []) := by
  rw [sectionsWithout, hsection, Option.map_some, List.filter_append, List.diff_append]
  simp

theorem isDeleted_deleteItem (h : original.IsPartitioned) {progress : MediaGallery × GalleryUpdate}
    (hdeleted : IsDeleted original items progress) (hitem : item ∈ original.galleryItems)
    (hnew : item ∉ items) :
    ∃ progress', deleteItem original progress item = some progress' ∧
      IsDeleted original (items ++ [item]) progress' := by
  obtain ⟨gallery, update⟩ := progress
  obtain ⟨originalItems, hsection, hmem⟩ := h.exists_section hitem
  have horiginal : item.galleryDate ∈ original.sectionDates := by
    rw [h.mem_sectionDates, hsection]
    rfl
  have hremains : item ∈ gallery.galleryItems := by
    rw [hdeleted.galleryItems]
    exact List.mem_diff_of_mem hitem hnew
  have hnewOfDate : item ∉ items.filter (·.galleryDate = item.galleryDate) := fun hmem' =>
    hnew (List.mem_of_mem_filter hmem')
  generalize hrest : originalItems.diff (items.filter (·.galleryDate = item.galleryDate)) = rest
  have hmemRest : item ∈ rest := by
    rw [← hrest]
    exact List.mem_diff_of_mem hmem hnewOfDate
  have hsectionRest : sectionsWithout original items item.galleryDate = some rest := by
    rw [sectionsWithout, hsection, Option.map_some, hrest]
    simp [List.ne_nil_of_mem hmemRest]
  have happended := @sectionsWithout_append_self original items item _ hsection
  rw [hrest] at happended
  have hgallerySection : gallery.sections item.galleryDate = some rest := by
    rw [hdeleted.sections, hsectionRest]
  have hdate : item.galleryDate ∈ gallery.sectionDates := by
    rw [hdeleted.sectionDates]
    exact List.mem_filter.mpr ⟨horiginal, by rw [hsectionRest]; rfl⟩
  have hgalleryItems : gallery.galleryItems.erase item =
      original.galleryItems.diff (items ++ [item]) := by
    rw [hdeleted.galleryItems, List.diff_append, List.diff_cons, List.diff_nil]
  have hupdate : update = updateWithout original items := hdeleted.update
  have hpaths : update.paths ++
      [⟨originalItems.idxOf item, original.sectionDates.idxOf item.galleryDate + 1⟩] =
        (updateWithout original (items ++ [item])).paths := by
    rw [hupdate]
    simp [updateWithout, GalleryUpdate.ofDates, hsection]
  have hsections : ∀ value, sectionsWithout original (items ++ [item]) item.galleryDate = value →
      Function.update gallery.sections item.galleryDate value =
        sectionsWithout original (items ++ [item]) := by
    intro value hvalue
    rw [hdeleted.sections]
    funext date
    by_cases hother : date = item.galleryDate
    · rw [hother, Function.update_self, hvalue]
    · rw [Function.update_of_ne hother, sectionsWithout_append_of_ne hother]
  unfold deleteItem
  simp only [hremains, hdate, hmemRest, horiginal, hmem, hgallerySection, hsection,
    not_true_eq_false, if_false]
  by_cases hlast : rest = [item]
  · -- the last item of its section
    have hgone : sectionsWithout original (items ++ [item]) item.galleryDate = none := by
      rw [happended, hlast]
      simp
    rw [if_pos hlast]
    refine ⟨_, rfl, hgalleryItems, hsections none hgone, ?_, ?_⟩
    · have hnodup : gallery.sectionDates.Nodup := by
        rw [hdeleted.sectionDates]
        exact List.Nodup.filter _ (h.dates_ascending.imp fun hlt => ne_of_lt hlt)
      rw [hnodup.erase_eq_filter, hdeleted.sectionDates, List.filter_filter]
      refine List.filter_congr fun date _ => ?_
      by_cases hother : date = item.galleryDate
      · rw [hother, hgone]
        simp
      · rw [sectionsWithout_append_of_ne hother]
        simp [hother]
    · have hnumbers : insert (original.sectionDates.idxOf item.galleryDate + 1)
          update.sectionNumbers = (updateWithout original (items ++ [item])).sectionNumbers := by
        ext number
        rw [hupdate, Finset.mem_insert]
        simp only [updateWithout, GalleryUpdate.ofDates, List.mem_toFinset, List.mem_map,
          List.mem_filter]
        constructor
        · rintro (rfl | ⟨date, ⟨hdate, hnone⟩, rfl⟩)
          · exact ⟨_, ⟨horiginal, by rw [hgone]; rfl⟩, rfl⟩
          · by_cases hother : date = item.galleryDate
            · exact ⟨_, ⟨horiginal, by rw [hgone]; rfl⟩, by rw [hother]⟩
            · exact ⟨date, ⟨hdate, by rwa [sectionsWithout_append_of_ne hother]⟩, rfl⟩
        · rintro ⟨date, ⟨hdate, hnone⟩, rfl⟩
          by_cases hother : date = item.galleryDate
          · exact .inl (by rw [hother])
          · rw [sectionsWithout_append_of_ne hother] at hnone
            exact .inr ⟨date, ⟨hdate, hnone⟩, rfl⟩
      exact congrArg₂ GalleryUpdate.mk hnumbers hpaths
  · have hstays : sectionsWithout original (items ++ [item]) item.galleryDate =
        some (rest.erase item) := by
      have hne : rest.erase item ≠ [] := by
        rw [Ne, List.erase_eq_nil_iff]
        exact not_or.mpr ⟨List.ne_nil_of_mem hmemRest, hlast⟩
      rw [happended]
      simp [hne]
    have hsame : ∀ date, (sectionsWithout original (items ++ [item]) date).isSome =
        (sectionsWithout original items date).isSome := by
      intro date
      by_cases hother : date = item.galleryDate
      · rw [hother, hstays, hsectionRest]
        rfl
      · rw [sectionsWithout_append_of_ne hother]
    rw [if_neg hlast]
    refine ⟨_, rfl, hgalleryItems, hsections _ hstays, ?_, ?_⟩
    · simp only [hsame]
      exact hdeleted.sectionDates
    · have hnumbers : update.sectionNumbers =
          (updateWithout original (items ++ [item])).sectionNumbers := by
        rw [hupdate]
        simp only [updateWithout, GalleryUpdate.ofDates, ← Option.not_isSome, hsame]
      exact congrArg₂ GalleryUpdate.mk hnumbers hpaths

/-- **The deletion of distinct items goes through.** -/
theorem isDeleted_delete (h : gallery.IsPartitioned) (hnodup : items.Nodup)
    (hitems : ∀ item ∈ items, item ∈ gallery.galleryItems) :
    ∃ progress, gallery.delete items = some progress ∧ IsDeleted gallery items progress := by
  unfold delete
  generalize gallery.deletedMessages ++ items = deletedMessages
  induction items using List.reverseRecOn with
  | nil => exact ⟨_, rfl, isDeleted_nil h deletedMessages⟩
  | append_singleton items item ih =>
      obtain ⟨hnodup, -, hdisjoint⟩ := List.nodup_append'.mp hnodup
      obtain ⟨progress, hprogress, hdeleted⟩ :=
        ih hnodup fun other hmem => hitems other (List.mem_append_left _ hmem)
      rw [List.foldlM_append, hprogress]
      obtain ⟨progress', hprogress', hdeleted'⟩ := isDeleted_deleteItem h hdeleted
        (hitems item (List.mem_append_right _ List.mem_cons_self))
        fun hmem => hdisjoint hmem List.mem_cons_self
      refine ⟨progress', ?_, hdeleted'⟩
      simp [hprogress']

/-- The update of a deletion describes it. -/
def DescribesDelete (gallery : MediaGallery) (items : List MediaGalleryItem) : Prop :=
  ∃ after update, gallery.delete items = some (after, update) ∧
    update.Describes gallery.shownSections after.shownSections

/-- **A deletion of distinct items is described.** -/
theorem describes_delete (h : gallery.IsPartitioned) (hnodup : items.Nodup)
    (hitems : ∀ item ∈ items, item ∈ gallery.galleryItems) : gallery.DescribesDelete items := by
  obtain ⟨⟨after, update⟩, hdelete, hdeleted⟩ := isDeleted_delete h hnodup hitems
  refine ⟨after, update, hdelete, ?_⟩
  have hupdate : update = updateWithout gallery items := hdeleted.update
  have hdates : gallery.sectionDates.Nodup := h.dates_ascending.imp fun hlt => ne_of_lt hlt
  have hsection : ∀ item ∈ items, item ∈ (gallery.sections item.galleryDate).getD [] := by
    intro item hmem
    obtain ⟨sectionItems, hsection, hitem⟩ := h.exists_section (hitems item hmem)
    rwa [hsection, Option.getD_some]
  rw [hupdate, updateWithout, shownSections, GalleryUpdate.describes_ofDates_iff hdates]
  · rw [shownSections, hdeleted.sectionDates]
    have hfilter : gallery.sectionDates.filter (fun date => date ∉ gallery.sectionDates.filter
        fun date => (sectionsWithout gallery items date).isNone) =
          gallery.sectionDates.filter fun date => (sectionsWithout gallery items date).isSome := by
      refine List.filter_congr fun date hdate => ?_
      cases hrest : sectionsWithout gallery items date <;> simp [hdate, hrest]
    rw [hfilter]
    refine List.map_congr_left fun date hmem => ?_
    obtain ⟨rest, hrest⟩ := Option.isSome_iff_exists.mp (List.mem_filter.mp hmem).2
    rw [hdeleted.sections, hrest, Option.getD_some]
    obtain ⟨hsome, -⟩ := Option.filter_eq_some_iff.mp hrest
    obtain ⟨sectionItems, hsectionItems, rfl⟩ := Option.map_eq_some_iff.mp hsome
    have hrows : ((items.filter (·.galleryDate = date)).map fun item =>
        ((gallery.sections item.galleryDate).getD []).idxOf item) =
          (items.filter (·.galleryDate = date)).map (sectionItems.idxOf ·) := by
      refine List.map_congr_left fun item hitem => ?_
      have hdate : item.galleryDate = date := of_decide_eq_true (List.mem_filter.mp hitem).2
      rw [hdate, hsectionItems, Option.getD_some]
    rw [hrows, hsectionItems, Option.getD_some, without_idxOf (hnodup.filter _)]
  · intro item hmem
    rw [h.mem_sectionDates, h.isSome_section]
    exact ⟨item, hitems item hmem, rfl⟩
  · exact List.filter_subset_self _
  · exact fun item hmem => List.idxOf_lt_length_of_mem (hsection item hmem)
  · refine hnodup.imp_of_mem fun {item other} hmem _ hne hdate hrow => hne ?_
    rw [← hdate] at hrow
    exact (List.idxOf_inj (hsection item hmem)).mp hrow

/-! ## Batch updates -/

/-- **Batch updates describe the change.**  Of a gallery whose sections partition its items, all
deletions of distinct items are described; and so is a load, if and only if it adds nothing older to
a month there is (ties apart). -/
theorem updates_iff (h : gallery.IsPartitioned) (sort : ItemSort) (view : MediaView)
    (call : GalleryCall) :
    (∀ items : List MediaGalleryItem, items.Nodup →
        (∀ item ∈ items, item ∈ gallery.galleryItems) → gallery.DescribesDelete items) ∧
      DescribesLoad sort view gallery call ↔
    ∀ requested, requestSet view call = some requested →
      KeepsPlaces sort gallery (messagesFor view gallery requested) := by
  rw [and_iff_right fun items hnodup hitems => describes_delete h hnodup hitems]
  constructor
  · intro hdescribes requested hrequested
    obtain ⟨after, update, hload⟩ : ∃ after update,
        gallery.ensureGalleryItemsLoaded sort view call = some (after, update) := by
      rw [ensureGalleryItemsLoaded, hrequested]
      exact ⟨_, _, rfl⟩
    obtain ⟨other, hother, marked, rfl, rfl⟩ := ensureGalleryItemsLoaded_eq_some hload
    cases hrequested.symm.trans hother
    exact (describes_completed_iff h (nodup_messagesFor _) marked).mp (hdescribes _ _ hload)
  · intro hkeeps after update hload
    obtain ⟨requested, hrequested, marked, rfl, rfl⟩ := ensureGalleryItemsLoaded_eq_some hload
    exact (describes_completed_iff h (nodup_messagesFor _) marked).mpr
      (hkeeps requested hrequested)

def threeMessages : MediaView where
  messages := [⟨"a", 1, ⟨2018, 12⟩⟩, ⟨"b", 2, ⟨2018, 12⟩⟩, ⟨"c", 3, ⟨2018, 12⟩⟩]
  nodup := by decide

def secondLoaded : MediaGallery where
  galleryItems := [⟨"b", 2, ⟨2018, 12⟩⟩]
  sections := Function.update (fun _ => none) ⟨2018, 12⟩ (some [⟨"b", 2, ⟨2018, 12⟩⟩])
  sectionDates := [⟨2018, 12⟩]
  hasFetchedOldest := false
  hasFetchedMostRecent := false
  fetchedIndexSet := {1}
  deletedMessages := []

theorem isPartitioned_secondLoaded : secondLoaded.IsPartitioned := by
  have hsections : ∀ date, secondLoaded.sections date =
      if date = ⟨2018, 12⟩ then some [⟨"b", 2, ⟨2018, 12⟩⟩] else none := fun date => by
    simp [secondLoaded, Function.update_apply]
  refine ⟨List.pairwise_singleton _ _, fun date => ?_, fun date => ?_, fun date => ?_,
    fun date => ?_, List.pairwise_singleton _ _⟩
  · rw [hsections]
    by_cases hdate : date = ⟨2018, 12⟩
    · simp [hdate, secondLoaded]
    · simp [hdate, Ne.symm hdate, secondLoaded]
  · rw [hsections]
    by_cases hdate : date = ⟨2018, 12⟩ <;> simp [hdate]
  · rw [hsections]
    by_cases hdate : date = ⟨2018, 12⟩
    · simp [hdate, secondLoaded]
    · simp [hdate, Ne.symm hdate, secondLoaded]
  · rw [hsections]
    by_cases hdate : date = ⟨2018, 12⟩ <;> simp [hdate, secondLoaded]

theorem updates_after :
    (∀ items : List MediaGalleryItem, items.Nodup →
        (∀ item ∈ items, item ∈ secondLoaded.galleryItems) → secondLoaded.DescribesDelete items) ∧
      DescribesLoad stableSort threeMessages secondLoaded
        ⟨.after, ⟨"b", 2, ⟨2018, 12⟩⟩, 2⟩ := by
  refine (updates_iff isPartitioned_secondLoaded stableSort threeMessages _).mpr ?_
  intro requested hrequested date items hsection
  cases hrequested
  have hdate : date = ⟨2018, 12⟩ := by
    by_contra hne
    simp [secondLoaded, Function.update_of_ne hne] at hsection
  subst hdate
  cases hsection
  decide

theorem wrong_path : ¬ DescribesLoad stableSort threeMessages secondLoaded
    ⟨.before, ⟨"b", 2, ⟨2018, 12⟩⟩, 1⟩ := by
  intro hdescribes
  obtain ⟨after, update, hload⟩ : ∃ after update, secondLoaded.ensureGalleryItemsLoaded stableSort
      threeMessages ⟨.before, ⟨"b", 2, ⟨2018, 12⟩⟩, 1⟩ = some (after, update) := ⟨_, _, rfl⟩
  have hdescribed := hdescribes _ _ hload
  obtain ⟨requested, hrequested, marked, rfl, rfl⟩ := ensureGalleryItemsLoaded_eq_some hload
  cases hrequested
  have hkeeps := (describes_completed_iff isPartitioned_secondLoaded (nodup_messagesFor _)
    marked).mp hdescribed
  exact absurd (hkeeps ⟨2018, 12⟩ [⟨"b", 2, ⟨2018, 12⟩⟩] rfl) (by decide)

theorem reported_before_and_after :
    ¬ AtReportedRows stableSort secondLoaded [⟨"a", 1, ⟨2018, 12⟩⟩, ⟨"c", 3, ⟨2018, 12⟩⟩] ∧
      AtReportedRows stableSort secondLoaded [⟨"c", 3, ⟨2018, 12⟩⟩, ⟨"d", 4, ⟨2019, 1⟩⟩] := by
  rw [atReportedRows_iff_later isPartitioned_secondLoaded (by decide) (by decide),
    atReportedRows_iff_later isPartitioned_secondLoaded (by decide) (by decide)]
  decide

end MediaGallery

end ObjcSwiftLearning.Signal
