import ObjcSwiftLearning.Library.Insertions
import ObjcSwiftLearning.Library.OrderedSet
import ObjcSwiftLearning.Library.Positions
import Mathlib.Data.List.Sort

/-!
# Updates of a conversation view

When its items have changed, a conversation view is told what to delete, to insert and to update,
from the list of the ids it shows to that of the ids it is to show.

* `updateViewWithOldItemIdList` — the comparison of the lists, with what the delegate is told; an
  insertion past the end of a list is an exception.
* `insertItems_eq` — **no insertion is past the end,** whatever has been moved.
* `IsFaithful` — what a diff says is what has changed.
* `updates_faithful` — **conversation diffs are faithful,** and lists that keep the order of what
  they have in common differ by a diff.
-/

namespace ObjcSwiftLearning.Signal

open Insertions Positions

/-! ## Update items -/

/-- `ConversationViewItem`, as far as an update looks at it. -/
structure ConversationViewItem where
  itemId : String
  /-- Its interaction is an incoming or an outgoing message. -/
  isMessage : Bool

inductive ConversationUpdateItem where
  | delete (oldIndex : ℕ)
  | insert (newIndex : ℕ) (viewItem : ConversationViewItem)
  | update (oldIndex newIndex : ℕ) (viewItem : ConversationViewItem)

inductive ConversationUpdate where
  | minorUpdate
  | reloadUpdate
  | diffUpdate (updateItems : List ConversationUpdateItem) (shouldAnimateUpdates : Bool)

/-- Why a comparison is broken off. -/
inductive ComparisonEnd where
  | reload
  /-- `NSRangeException`. -/
  | rangeException

/-- The update items so far, and the `transformedItemList`. -/
abbrev Transformation := List ConversationUpdateItem × List String

def newViewItemMap (viewItems : List ConversationViewItem) (itemId : String) :
    Option ConversationViewItem :=
  viewItems.reverse.find? (·.itemId = itemId)

def deleteItem (oldItemIdList : List String) (transformation : Transformation) (itemId : String) :
    Except ComparisonEnd Transformation :=
  match oldItemIdList.idxOf? itemId with
  | none => .error .reload
  | some oldIndex =>
      .ok (transformation.1 ++ [.delete oldIndex], transformation.2.filter (· ≠ itemId))

def insertItem (newItemIdList : List String) (viewItems : List ConversationViewItem)
    (transformation : Transformation) (itemId : String) : Except ComparisonEnd Transformation :=
  match newItemIdList.idxOf? itemId with
  | none => .error .reload
  | some newIndex =>
      match newViewItemMap viewItems itemId with
      | none => .error .reload
      | some viewItem =>
          if transformation.2.length < newIndex then .error .rangeException
          else .ok (transformation.1 ++ [.insert newIndex viewItem],
            transformation.2.insertIdx newIndex itemId)

def updateItem (oldItemIdList newItemIdList insertedItemIdList : List String)
    (viewItems : List ConversationViewItem) (updateItems : List ConversationUpdateItem)
    (itemId : String) : Except ComparisonEnd (List ConversationUpdateItem) :=
  if itemId ∉ newItemIdList then .ok updateItems
  else if itemId ∈ insertedItemIdList then .ok updateItems
  else
    match oldItemIdList.idxOf? itemId with
    | none => .error .reload
    | some oldIndex =>
        match newItemIdList.idxOf? itemId with
        | none => .error .reload
        | some newIndex =>
            match newViewItemMap viewItems itemId with
            | none => .error .reload
            | some viewItem => .ok (updateItems ++ [.update oldIndex newIndex viewItem])

def ConversationUpdateItem.modifiesOther (oldViewItemCount : ℕ)
    (updatedNeighborItemSet : List String) : ConversationUpdateItem → Bool
  | .delete _ => true
  | .insert newIndex viewItem => !(viewItem.isMessage && oldViewItemCount ≤ newIndex)
  | .update _ newIndex viewItem =>
      !decide (viewItem.itemId ∈ updatedNeighborItemSet) &&
        !(viewItem.isMessage && oldViewItemCount ≤ newIndex)

def shouldAnimateUpdateItems (updateItems : List ConversationUpdateItem) (oldViewItemCount : ℕ)
    (updatedNeighborItemSet : List String) : Bool :=
  updateItems.any (·.modifiesOther oldViewItemCount updatedNeighborItemSet)

/-- The comparison of two lists without duplicates. -/
def compareItemIdLists (oldItemIdList : List String) (viewItems : List ConversationViewItem)
    (updatedItemSet updatedNeighborItemSet : List String) :
    Except ComparisonEnd ConversationUpdate := do
  let newItemIdList := viewItems.map (·.itemId)
  let deletedItemIdList := ((OrderedSet.empty.union oldItemIdList).minus newItemIdList).elements
  let insertedItemIdList := ((OrderedSet.empty.union newItemIdList).minus oldItemIdList).elements
  let deleted ← deletedItemIdList.reverse.foldlM (deleteItem oldItemIdList) ([], oldItemIdList)
  let inserted ← insertedItemIdList.foldlM (insertItem newItemIdList viewItems) deleted
  if newItemIdList ≠ inserted.2 then .error .reload
  else
    let updateItems ← updatedItemSet.foldlM
      (updateItem oldItemIdList newItemIdList insertedItemIdList viewItems) inserted.1
    .ok (.diffUpdate updateItems
      (shouldAnimateUpdateItems updateItems oldItemIdList.length updatedNeighborItemSet))

/-- `updateViewWithOldItemIdList:updatedItemSet:updatedNeighborItemSet:`, with what the delegate is
told, unless there is an exception. -/
def updateViewWithOldItemIdList (isObservingVMUpdates : Bool) (oldItemIdList : List String)
    (viewItems : List ConversationViewItem) (updatedItemSet updatedNeighborItemSet : List String) :
    Option (List ConversationUpdate) :=
  if !isObservingVMUpdates then some [.minorUpdate]
  else if oldItemIdList.length ≠ oldItemIdList.toFinset.card then some [.reloadUpdate]
  else if (viewItems.map (·.itemId)).length ≠ (viewItems.map (·.itemId)).toFinset.card then
    some [.reloadUpdate]
  else
    match compareItemIdLists oldItemIdList viewItems updatedItemSet updatedNeighborItemSet with
    | .ok update => some [update]
    | .error .reload => some [.reloadUpdate]
    | .error .rangeException => none

/-! ## What a diff says -/

namespace ConversationUpdateItem

/-- The index that is deleted. -/
def deletion : ConversationUpdateItem → Option ℕ
  | delete oldIndex => some oldIndex
  | _ => none

/-- The index where an id is inserted. -/
def insertion : ConversationUpdateItem → Option (ℕ × String)
  | insert newIndex viewItem => some (newIndex, viewItem.itemId)
  | _ => none

def isUpdateOf (itemId : String) : ConversationUpdateItem → Bool
  | update _ _ viewItem => viewItem.itemId = itemId
  | _ => false

end ConversationUpdateItem

/-- Update items, applied as a batch: the deletions by their old index, then the insertions by
their new index, in ascending order. -/
def applyBatch (updateItems : List ConversationUpdateItem) (oldItemIdList : List String) :
    List String :=
  ((updateItems.filterMap (·.insertion)).mergeSort fun first second => first.1 ≤ second.1).foldl
    (fun list insertion => list.insertIdx insertion.1 insertion.2)
    (without (updateItems.filterMap (·.deletion)).toFinset oldItemIdList)

/-- What a diff says is what has changed. -/
structure IsFaithful (oldItemIdList newItemIdList updatedItemSet : List String)
    (updateItems : List ConversationUpdateItem) : Prop where
  applyBatch_eq : applyBatch updateItems oldItemIdList = newItemIdList
  update : ∀ oldIndex newIndex viewItem, .update oldIndex newIndex viewItem ∈ updateItems →
    oldItemIdList[oldIndex]? = some viewItem.itemId ∧
      newItemIdList[newIndex]? = some viewItem.itemId
  updated : ∀ itemId ∈ updatedItemSet, itemId ∈ oldItemIdList → itemId ∈ newItemIdList →
    (updateItems.filter (·.isUpdateOf itemId)).length = 1

/-! ## The loops -/

variable {oldItemIdList newItemIdList : List String} {viewItems : List ConversationViewItem}
  {itemId : String}

theorem idxOf?_of_mem {list : List String} (hmem : itemId ∈ list) :
    list.idxOf? itemId = some (list.idxOf itemId) := by
  cases hidx : list.idxOf? itemId with
  | none => exact absurd hmem (List.idxOf?_eq_none_iff.mp hidx)
  | some index => rw [List.idxOf_eq_getD_idxOf?, hidx, Option.getD_some]

/-- The ids of a list that are not among others, each once. -/
theorem elements_minus {list others : List String} (hnodup : list.Nodup) :
    ((OrderedSet.empty.union list).minus others).elements =
      list.filter fun itemId => !decide (itemId ∈ others) := by
  have hunion : (OrderedSet.empty.union list).elements = list :=
    OrderedSet.elements_union (by exact hnodup)
  simp only [← decide_not]
  exact congrArg (List.filter (· ∉ others)) hunion

theorem deleteItems_eq (deletedItemIdList : List String)
    (hdeleted : ∀ itemId ∈ deletedItemIdList, itemId ∈ oldItemIdList)
    (updateItems : List ConversationUpdateItem) (list : List String) :
    deletedItemIdList.foldlM (deleteItem oldItemIdList) (updateItems, list) =
      .ok (updateItems ++ deletedItemIdList.map fun itemId => .delete (oldItemIdList.idxOf itemId),
        list.filter (· ∉ deletedItemIdList)) := by
  induction deletedItemIdList generalizing updateItems list with
  | nil => simp [pure, Except.pure]
  | cons itemId deletedItemIdList ih =>
      obtain ⟨hfirst, hdeleted⟩ := List.forall_mem_cons.mp hdeleted
      rw [List.foldlM_cons, deleteItem, idxOf?_of_mem hfirst]
      refine (ih hdeleted _ _).trans ?_
      rw [List.filter_filter]
      simp [Bool.and_comm]

theorem itemId_of_newViewItemMap {viewItem : ConversationViewItem}
    (hviewItem : newViewItemMap viewItems itemId = some viewItem) : viewItem.itemId = itemId := by
  have hfound := List.find?_some hviewItem
  simpa using hfound

theorem exists_viewItem (hmem : itemId ∈ viewItems.map (·.itemId)) :
    ∃ viewItem, newViewItemMap viewItems itemId = some viewItem := by
  obtain ⟨viewItem, hviewItem, heq⟩ := List.mem_map.mp hmem
  refine Option.isSome_iff_exists.mp (List.find?_isSome.mpr ⟨viewItem, ?_, ?_⟩)
  · exact List.mem_reverse.mpr hviewItem
  · exact decide_eq_true heq

/-- **No insertion is past the end:** ids are inserted in turn, into a list of as many ids as both
lists have in common. -/
theorem insertItems_eq (hnodup : newItemIdList.Nodup)
    (hnew : newItemIdList = viewItems.map (·.itemId)) (before rest : List String)
    (hsplit : newItemIdList.filter (fun itemId => !decide (itemId ∈ oldItemIdList)) =
      before ++ rest)
    (updateItems : List ConversationUpdateItem) (list : List String)
    (hlength : list.length =
      (newItemIdList.filter (· ∈ oldItemIdList)).length + before.length) :
    rest.foldlM (insertItem newItemIdList viewItems) (updateItems, list) =
      .ok (updateItems ++ rest.filterMap fun itemId =>
          (newViewItemMap viewItems itemId).map (.insert (newItemIdList.idxOf itemId)),
        rest.foldl (insertAt newItemIdList) list) := by
  induction rest generalizing before updateItems list with
  | nil => simp [pure, Except.pure]
  | cons itemId rest ih =>
      have hmem : itemId ∈ newItemIdList := by
        have : itemId ∈ newItemIdList.filter fun itemId => !decide (itemId ∈ oldItemIdList) := by
          rw [hsplit]
          simp
        exact List.mem_of_mem_filter this
      obtain ⟨viewItem, hviewItem⟩ := exists_viewItem (hnew ▸ hmem)
      have hle := idxOf_le (fun itemId => decide (itemId ∈ oldItemIdList)) hnodup hsplit
      have hroom : ¬ list.length < newItemIdList.idxOf itemId := by omega
      rw [List.foldlM_cons, insertItem, idxOf?_of_mem hmem, hviewItem]
      simp only [if_neg hroom]
      refine (ih (before ++ [itemId]) (by rw [hsplit, List.append_cons]) _ _ ?_).trans ?_
      · rw [List.length_insertIdx_of_le_length (by omega), hlength, List.length_append,
          List.length_singleton, Nat.add_assoc]
      · rw [List.filterMap_cons, hviewItem, List.foldl_cons]
        simp [insertAt]

theorem updateItems_eq {insertedItemIdList : List String}
    (hnew : newItemIdList = viewItems.map (·.itemId))
    (hinserted : ∀ itemId ∈ newItemIdList, itemId ∉ insertedItemIdList → itemId ∈ oldItemIdList)
    (updatedItemSet : List String) (updateItems : List ConversationUpdateItem) :
    updatedItemSet.foldlM (updateItem oldItemIdList newItemIdList insertedItemIdList viewItems)
        updateItems =
      .ok (updateItems ++ updatedItemSet.filterMap fun itemId =>
        if itemId ∈ newItemIdList ∧ itemId ∉ insertedItemIdList then
          (newViewItemMap viewItems itemId).map
            (.update (oldItemIdList.idxOf itemId) (newItemIdList.idxOf itemId))
        else none) := by
  induction updatedItemSet generalizing updateItems with
  | nil => simp [pure, Except.pure]
  | cons itemId updatedItemSet ih =>
      rw [List.foldlM_cons, updateItem, List.filterMap_cons]
      by_cases hmem : itemId ∈ newItemIdList
      · rw [if_neg (not_not.mpr hmem)]
        by_cases hskip : itemId ∈ insertedItemIdList
        · rw [if_pos hskip, if_neg (fun h => h.2 hskip)]
          exact ih updateItems
        · obtain ⟨viewItem, hviewItem⟩ := exists_viewItem (hnew ▸ hmem)
          rw [if_neg hskip, if_pos ⟨hmem, hskip⟩, idxOf?_of_mem (hinserted itemId hmem hskip),
            idxOf?_of_mem hmem, hviewItem]
          refine (ih _).trans ?_
          simp
      · rw [if_pos hmem, if_neg (fun h => hmem h.1)]
        exact ih updateItems

/-! ## The comparison -/

/-- The ids that only the first list has. -/
def onlyIn (list others : List String) : List String :=
  list.filter fun itemId => !decide (itemId ∈ others)

def diffItems (oldItemIdList : List String) (viewItems : List ConversationViewItem)
    (updatedItemSet : List String) : List ConversationUpdateItem :=
  let newItemIdList := viewItems.map (·.itemId)
  ((onlyIn oldItemIdList newItemIdList).reverse.map fun itemId =>
      .delete (oldItemIdList.idxOf itemId)) ++
    ((onlyIn newItemIdList oldItemIdList).filterMap fun itemId =>
      (newViewItemMap viewItems itemId).map (.insert (newItemIdList.idxOf itemId))) ++
    updatedItemSet.filterMap fun itemId =>
      if itemId ∈ newItemIdList ∧ itemId ∉ onlyIn newItemIdList oldItemIdList then
        (newViewItemMap viewItems itemId).map
          (.update (oldItemIdList.idxOf itemId) (newItemIdList.idxOf itemId))
      else none

def transformed (oldItemIdList newItemIdList : List String) : List String :=
  (onlyIn newItemIdList oldItemIdList).foldl (insertAt newItemIdList)
    (oldItemIdList.filter (· ∈ newItemIdList))

theorem mem_onlyIn {list others : List String} :
    itemId ∈ onlyIn list others ↔ itemId ∈ list ∧ itemId ∉ others := by
  simp [onlyIn]

theorem length_common (hold : oldItemIdList.Nodup) (hnew : newItemIdList.Nodup) :
    (oldItemIdList.filter (· ∈ newItemIdList)).length =
      (newItemIdList.filter (· ∈ oldItemIdList)).length := by
  refine List.Perm.length_eq ?_
  refine (List.perm_ext_iff_of_nodup (hold.filter _) (hnew.filter _)).mpr fun itemId => ?_
  simp [and_comm]

/-- **The comparison ends with the diff,** or it finds that the diff is not right. -/
theorem compareItemIdLists_eq (hold : oldItemIdList.Nodup)
    (hnew : (viewItems.map (·.itemId)).Nodup)
    (updatedItemSet updatedNeighborItemSet : List String) :
    compareItemIdLists oldItemIdList viewItems updatedItemSet updatedNeighborItemSet =
      if viewItems.map (·.itemId) ≠ transformed oldItemIdList (viewItems.map (·.itemId)) then
        .error .reload
      else .ok (.diffUpdate (diffItems oldItemIdList viewItems updatedItemSet)
        (shouldAnimateUpdateItems (diffItems oldItemIdList viewItems updatedItemSet)
          oldItemIdList.length updatedNeighborItemSet)) := by
  generalize hids : viewItems.map (·.itemId) = newItemIdList at hnew
  have hkept : oldItemIdList.filter (· ∉ (onlyIn oldItemIdList newItemIdList).reverse) =
      oldItemIdList.filter (· ∈ newItemIdList) := by
    refine List.filter_congr fun itemId hmem => ?_
    rw [decide_eq_decide, List.mem_reverse, mem_onlyIn, not_and, not_not]
    exact ⟨fun h => h hmem, fun h _ => h⟩
  have hdeletes := @deleteItems_eq oldItemIdList
    (onlyIn oldItemIdList newItemIdList).reverse
    (fun itemId hmem => (mem_onlyIn.mp (List.mem_reverse.mp hmem)).1) [] oldItemIdList
  rw [List.nil_append, hkept] at hdeletes
  have hinserts := insertItems_eq hnew hids.symm [] (onlyIn newItemIdList oldItemIdList) rfl
    ((onlyIn oldItemIdList newItemIdList).reverse.map fun itemId =>
      .delete (oldItemIdList.idxOf itemId))
    (oldItemIdList.filter (· ∈ newItemIdList)) (length_common hold hnew)
  have hcommon : ∀ itemId ∈ newItemIdList, itemId ∉ onlyIn newItemIdList oldItemIdList →
      itemId ∈ oldItemIdList := by
    intro itemId hmem hnot
    by_contra hother
    exact hnot (mem_onlyIn.mpr ⟨hmem, hother⟩)
  have hupdates := updateItems_eq hids.symm hcommon updatedItemSet
  unfold compareItemIdLists
  simp only [hids, elements_minus hold, elements_minus hnew]
  rw [show oldItemIdList.filter (fun itemId => !decide (itemId ∈ newItemIdList)) =
    onlyIn oldItemIdList newItemIdList from rfl, show newItemIdList.filter (fun itemId =>
      !decide (itemId ∈ oldItemIdList)) = onlyIn newItemIdList oldItemIdList from rfl, hdeletes]
  simp only [bind, Except.bind, hinserts]
  rw [show (onlyIn newItemIdList oldItemIdList).foldl (insertAt newItemIdList)
    (oldItemIdList.filter (· ∈ newItemIdList)) = transformed oldItemIdList newItemIdList from rfl]
  by_cases hsame : newItemIdList ≠ transformed oldItemIdList newItemIdList
  · rw [if_pos hsame, if_pos hsame]
  · rw [if_neg hsame, if_neg hsame, hupdates, diffItems, hids]

/-! ## The diff -/

theorem pairwise_idxOf (hnodup : newItemIdList.Nodup) :
    newItemIdList.Pairwise fun first second =>
      newItemIdList.idxOf first ≤ newItemIdList.idxOf second := by
  refine List.pairwise_iff_getElem.mpr fun first second hfirst hsecond hlt => ?_
  rw [hnodup.idxOf_getElem, hnodup.idxOf_getElem]
  exact Nat.le_of_lt hlt

theorem filterMap_updates {α : Type} (part : ConversationUpdateItem → Option α)
    (hpart : ∀ oldIndex newIndex viewItem, part (.update oldIndex newIndex viewItem) = none)
    (p : String → Prop) [DecidablePred p] (ids : List String) :
    (ids.filterMap fun itemId => if p itemId then
        (newViewItemMap viewItems itemId).map
          (.update (oldItemIdList.idxOf itemId) (newItemIdList.idxOf itemId))
      else none).filterMap part = [] := by
  rw [List.filterMap_filterMap]
  refine List.filterMap_eq_nil_iff.mpr fun itemId _ => ?_
  by_cases hp : p itemId
  · rw [if_pos hp]
    cases newViewItemMap viewItems itemId with
    | none => rfl
    | some viewItem => exact hpart _ _ _
  · rw [if_neg hp]
    rfl

theorem deletions_diffItems (updatedItemSet : List String) :
    (diffItems oldItemIdList viewItems updatedItemSet).filterMap (·.deletion) =
      (onlyIn oldItemIdList (viewItems.map (·.itemId))).reverse.map (oldItemIdList.idxOf ·) := by
  have hinserts : ((onlyIn (viewItems.map (·.itemId)) oldItemIdList).filterMap fun itemId =>
      (newViewItemMap viewItems itemId).map
        (ConversationUpdateItem.insert ((viewItems.map (·.itemId)).idxOf itemId))).filterMap
          (·.deletion) = [] := by
    rw [List.filterMap_filterMap]
    refine List.filterMap_eq_nil_iff.mpr fun itemId _ => ?_
    cases newViewItemMap viewItems itemId <;> rfl
  rw [diffItems, List.filterMap_append, List.filterMap_append, hinserts,
    filterMap_updates (·.deletion) fun _ _ _ => rfl, List.append_nil, List.append_nil,
    List.filterMap_map]
  exact congrFun List.filterMap_eq_map _

theorem insertions_diffItems (updatedItemSet : List String) :
    (diffItems oldItemIdList viewItems updatedItemSet).filterMap (·.insertion) =
      (onlyIn (viewItems.map (·.itemId)) oldItemIdList).map fun itemId =>
        ((viewItems.map (·.itemId)).idxOf itemId, itemId) := by
  have hdeletes : ((onlyIn oldItemIdList (viewItems.map (·.itemId))).reverse.map fun itemId =>
      ConversationUpdateItem.delete (oldItemIdList.idxOf itemId)).filterMap (·.insertion) = [] := by
    rw [List.filterMap_map]
    exact List.filterMap_eq_nil_iff.mpr fun itemId _ => rfl
  have hinserts : ∀ itemId ∈ onlyIn (viewItems.map (·.itemId)) oldItemIdList,
      ((newViewItemMap viewItems itemId).map
        (ConversationUpdateItem.insert ((viewItems.map (·.itemId)).idxOf itemId))).bind
          (·.insertion) = some ((viewItems.map (·.itemId)).idxOf itemId, itemId) := by
    intro itemId hmem
    obtain ⟨viewItem, hviewItem⟩ := exists_viewItem (mem_onlyIn.mp hmem).1
    rw [hviewItem, Option.map_some, Option.bind_some, ConversationUpdateItem.insertion,
      itemId_of_newViewItemMap hviewItem]
  rw [diffItems, List.filterMap_append, List.filterMap_append, hdeletes,
    filterMap_updates (·.insertion) fun _ _ _ => rfl, List.append_nil, List.nil_append,
    List.filterMap_filterMap, List.filterMap_congr hinserts, List.filterMap_eq_map']

/-- **The diff, applied as a batch,** makes the list that was compared. -/
theorem applyBatch_diffItems (hold : oldItemIdList.Nodup)
    (hnew : (viewItems.map (·.itemId)).Nodup) (updatedItemSet : List String) :
    applyBatch (diffItems oldItemIdList viewItems updatedItemSet) oldItemIdList =
      transformed oldItemIdList (viewItems.map (·.itemId)) := by
  rw [applyBatch, deletions_diffItems, insertions_diffItems, transformed]
  generalize viewItems.map (·.itemId) = newItemIdList at hnew
  have hsorted : ((onlyIn newItemIdList oldItemIdList).map fun itemId =>
      (newItemIdList.idxOf itemId, itemId)).Pairwise fun first second =>
        decide (first.1 ≤ second.1) = true := by
    refine List.pairwise_map.mpr (((pairwise_idxOf hnew).filter _).imp fun hle => ?_)
    exact decide_eq_true hle
  have hkept : without ((onlyIn oldItemIdList newItemIdList).reverse.map
      (oldItemIdList.idxOf ·)).toFinset oldItemIdList =
        oldItemIdList.filter (· ∈ newItemIdList) := by
    have hfilter := without_eq_filter (l := oldItemIdList)
      (s := ((onlyIn oldItemIdList newItemIdList).reverse.map (oldItemIdList.idxOf ·)).toFinset)
      (· ∉ newItemIdList) id fun index itemId hget => by
        rw [List.mem_toFinset, List.mem_map]
        constructor
        · rintro ⟨other, hother, rfl⟩
          obtain ⟨hmem, hnot⟩ := mem_onlyIn.mp (List.mem_reverse.mp hother)
          rw [List.getElem?_idxOf hmem] at hget
          cases hget
          exact hnot
        · intro hnot
          have honly := mem_onlyIn.mpr ⟨List.mem_of_getElem? hget, hnot⟩
          exact ⟨itemId, List.mem_reverse.mpr honly, idxOf_eq_of_getElem? hold hget⟩
    simpa using hfilter
  rw [List.mergeSort_of_pairwise hsorted, hkept, List.foldl_map]
  rfl

theorem mem_updates {updatedItemSet : List String} {updateItem : ConversationUpdateItem}
    (hmem : updateItem ∈ diffItems oldItemIdList viewItems updatedItemSet)
    {oldIndex newIndex : ℕ} {viewItem : ConversationViewItem}
    (hupdate : updateItem = .update oldIndex newIndex viewItem) :
    oldItemIdList[oldIndex]? = some viewItem.itemId ∧
      (viewItems.map (·.itemId))[newIndex]? = some viewItem.itemId := by
  subst hupdate
  rw [diffItems, List.mem_append, List.mem_append] at hmem
  rcases hmem with (hmem | hmem) | hmem
  · obtain ⟨itemId, -, heq⟩ := List.mem_map.mp hmem
    cases heq
  · obtain ⟨itemId, -, heq⟩ := List.mem_filterMap.mp hmem
    obtain ⟨viewItem, -, heq⟩ := Option.map_eq_some_iff.mp heq
    cases heq
  · obtain ⟨itemId, -, heq⟩ := List.mem_filterMap.mp hmem
    split at heq
    · rename_i hboth
      obtain ⟨hnew, hnot⟩ := hboth
      obtain ⟨viewItem, hviewItem, heq⟩ := Option.map_eq_some_iff.mp heq
      cases heq
      have hold : itemId ∈ oldItemIdList := by
        by_contra hother
        exact hnot (mem_onlyIn.mpr ⟨hnew, hother⟩)
      rw [itemId_of_newViewItemMap hviewItem]
      exact ⟨List.getElem?_idxOf hold, List.getElem?_idxOf hnew⟩
    · cases heq

theorem countP_isUpdateOf {updatedItemSet : List String} (hnodup : updatedItemSet.Nodup)
    (hmem : itemId ∈ updatedItemSet) (hold : itemId ∈ oldItemIdList)
    (hnew : itemId ∈ viewItems.map (·.itemId)) :
    (diffItems oldItemIdList viewItems updatedItemSet).countP (·.isUpdateOf itemId) = 1 := by
  have hupdates : updatedItemSet.countP (fun other => ((if other ∈ viewItems.map (·.itemId) ∧
      other ∉ onlyIn (viewItems.map (·.itemId)) oldItemIdList then
        (newViewItemMap viewItems other).map
          (.update (oldItemIdList.idxOf other) ((viewItems.map (·.itemId)).idxOf other))
      else none).map (ConversationUpdateItem.isUpdateOf itemId)).getD false) =
        updatedItemSet.count itemId := by
    refine List.countP_congr fun other _ => ?_
    rw [beq_iff_eq]
    constructor
    · intro htrue
      split at htrue
      · cases hviewItem : newViewItemMap viewItems other with
        | none => simp [hviewItem] at htrue
        | some viewItem =>
            rw [← itemId_of_newViewItemMap hviewItem]
            simpa [hviewItem, ConversationUpdateItem.isUpdateOf] using htrue
      · cases htrue
    · rintro rfl
      obtain ⟨viewItem, hviewItem⟩ := exists_viewItem hnew
      rw [if_pos ⟨hnew, fun honly => (mem_onlyIn.mp honly).2 hold⟩, hviewItem]
      exact decide_eq_true (itemId_of_newViewItemMap hviewItem)
  rw [diffItems, List.countP_append, List.countP_append, List.countP_map, List.countP_filterMap,
    List.countP_filterMap, hupdates, List.count_eq_one_of_mem hnodup hmem]
  have hdeletes : (onlyIn oldItemIdList (viewItems.map (·.itemId))).reverse.countP
      ((fun updateItem => updateItem.isUpdateOf itemId) ∘ fun other =>
        ConversationUpdateItem.delete (oldItemIdList.idxOf other)) = 0 :=
    List.countP_eq_zero.mpr fun _ _ => Bool.false_ne_true
  have hinserts : (onlyIn (viewItems.map (·.itemId)) oldItemIdList).countP (fun other =>
      (((newViewItemMap viewItems other).map (ConversationUpdateItem.insert
        ((viewItems.map (·.itemId)).idxOf other))).map (·.isUpdateOf itemId)).getD false) = 0 := by
    refine List.countP_eq_zero.mpr fun other _ => ?_
    cases newViewItemMap viewItems other <;> exact Bool.false_ne_true
  rw [hdeletes, hinserts]

/-- **A diff that makes the new list says what has changed.** -/
theorem isFaithful_diffItems (hold : oldItemIdList.Nodup) (hnew : (viewItems.map (·.itemId)).Nodup)
    (updatedItemSet : OrderedSet String)
    (hsame : viewItems.map (·.itemId) = transformed oldItemIdList (viewItems.map (·.itemId))) :
    IsFaithful oldItemIdList (viewItems.map (·.itemId)) updatedItemSet.elements
      (diffItems oldItemIdList viewItems updatedItemSet.elements) where
  applyBatch_eq := (applyBatch_diffItems hold hnew _).trans hsame.symm
  update _ _ _ hmem := mem_updates hmem rfl
  updated _ hmem hinOld hinNew := by
    rw [← List.countP_eq_length_filter]
    exact countP_isUpdateOf updatedItemSet.nodup hmem hinOld hinNew

theorem transformed_eq (hnew : newItemIdList.Nodup)
    (horder : oldItemIdList.filter (· ∈ newItemIdList) = newItemIdList.filter (· ∈ oldItemIdList)) :
    transformed oldItemIdList newItemIdList = newItemIdList := by
  rw [transformed, horder]
  exact foldl_insertAt _ hnew

theorem toFinset_card_eq_iff {list : List String} :
    list.length = list.toFinset.card ↔ list.Nodup := by
  rw [List.card_toFinset, ← List.dedup_eq_self]
  refine ⟨fun hlength => ?_, fun heq => by rw [heq]⟩
  exact (List.dedup_sublist list).eq_of_length hlength.symm

/-- **Conversation diffs are faithful:** the delegate is told of one update, with no exception; if
that is a diff, it says what has changed; and it is one where there are no duplicates and what both
lists have in common is in the same order. -/
theorem updates_faithful (oldItemIdList : List String) (viewItems : List ConversationViewItem)
    (updatedItemSet : OrderedSet String) (updatedNeighborItemSet : List String) :
    ∃ update, updateViewWithOldItemIdList true oldItemIdList viewItems updatedItemSet.elements
        updatedNeighborItemSet = some [update] ∧
      (∀ updateItems shouldAnimateUpdates, update = .diffUpdate updateItems shouldAnimateUpdates →
        IsFaithful oldItemIdList (viewItems.map (·.itemId)) updatedItemSet.elements updateItems) ∧
      (oldItemIdList.Nodup → (viewItems.map (·.itemId)).Nodup →
        oldItemIdList.filter (· ∈ viewItems.map (·.itemId)) =
            (viewItems.map (·.itemId)).filter (· ∈ oldItemIdList) →
          ∃ updateItems shouldAnimateUpdates,
            update = .diffUpdate updateItems shouldAnimateUpdates) := by
  unfold updateViewWithOldItemIdList
  rw [if_neg (by simp)]
  by_cases hold : oldItemIdList.Nodup
  · rw [if_neg (not_not.mpr (toFinset_card_eq_iff.mpr hold))]
    by_cases hnew : (viewItems.map (·.itemId)).Nodup
    · rw [if_neg (not_not.mpr (toFinset_card_eq_iff.mpr hnew)), compareItemIdLists_eq hold hnew]
      by_cases hsame : viewItems.map (·.itemId) =
          transformed oldItemIdList (viewItems.map (·.itemId))
      · rw [if_neg (not_not.mpr hsame)]
        refine ⟨_, rfl, ?_, fun _ _ _ => ⟨_, _, rfl⟩⟩
        intro updateItems shouldAnimateUpdates heq
        cases heq
        exact isFaithful_diffItems hold hnew updatedItemSet hsame
      · rw [if_pos hsame]
        refine ⟨_, rfl, (fun _ _ heq => by cases heq), fun _ _ horder => ?_⟩
        exact absurd (transformed_eq hnew horder).symm hsame
    · rw [if_pos (fun hlength => hnew (toFinset_card_eq_iff.mp hlength))]
      exact ⟨_, rfl, (fun _ _ heq => by cases heq), fun _ hnodup => absurd hnodup hnew⟩
  · rw [if_pos (fun hlength => hold (toFinset_card_eq_iff.mp hlength))]
    exact ⟨_, rfl, (fun _ _ heq => by cases heq), fun hnodup => absurd hnodup hold⟩

end ObjcSwiftLearning.Signal
