import Mathlib.Algebra.Group.Nat.Defs
import ObjcSwiftLearning.Library.Pieces

/-!
# The segments of a GIF

A GIF is downloaded in segments of one size, the last of which is moved back to keep it; what
it has in common with the one before is dropped when they are merged.  The data of a segment
arrives in chunks, while that of others does.

* `createSegments` — the segments; sums and differences of `UInt` trap where they do not fit.
* `tiles_createSegments` — they make up the resource.
* `writeAssetToFile` — what is written, if anything.
* `reassembles` — **in whatever order and chunks the data arrives**, the resource is written if
  each segment has received its range, and nothing if one of them has too much or too little.
-/

namespace ObjcSwiftLearning.Signal

inductive GiphyAssetSegmentState where
  | waiting
  | downloading
  | complete
  | failed
  deriving DecidableEq

structure GiphyAssetSegment where
  index : ℕ
  segmentStart : ℕ
  segmentLength : ℕ
  redundantLength : ℕ
  state : GiphyAssetSegmentState
  segmentData : List UInt8

namespace GiphyAssetSegment

def new (index segmentStart segmentLength redundantLength : ℕ) : GiphyAssetSegment where
  index
  segmentStart
  segmentLength
  redundantLength
  state := .waiting
  segmentData := []

variable (segment : GiphyAssetSegment)

def totalDataSize : ℕ := segment.segmentData.length

def append (data : List UInt8) : GiphyAssetSegment :=
  if segment.state = .downloading then
    { segment with segmentData := segment.segmentData ++ data }
  else segment

def mergeData (assetData : List UInt8) : Option (List UInt8) :=
  if segment.state = .complete ∧ segment.segmentData.length = segment.segmentLength then
    if 0 < segment.redundantLength then
      some (assetData ++
        (segment.segmentData.take segment.segmentLength).drop segment.redundantLength)
    else some (assetData ++ segment.segmentData)
  else none

/-- The range of the segment. -/
def piece : Piece where
  start := segment.segmentStart
  length := segment.segmentLength
  overlap := segment.redundantLength

end GiphyAssetSegment

/-! ## Creating the segments -/

/-- A sum of `UInt`. -/
def uintAdd (a b : ℕ) : Option ℕ := if a + b < 2 ^ 64 then some (a + b) else none

/-- A difference of `UInt`. -/
def uintSub (a b : ℕ) : Option ℕ := if b ≤ a then some (a - b) else none

/-- The sizes that `segmentSize()` goes through. -/
def segmentSizes : List ℕ :=
  [1024 * 1024, 500 * 1024, 100 * 1024, 50 * 1024, 10 * 1024, 1 * 1024]

def segmentSize (contentLength : ℕ) : ℕ :=
  if 0 < contentLength then (segmentSizes.find? (· ≤ contentLength)).getD contentLength
  else 0

/-- The segment that a turn of the loop appends. -/
def createSegment (contentLength segmentLength nextSegmentStart index : ℕ) :
    Option GiphyAssetSegment := do
  let segmentEnd ← uintAdd nextSegmentStart segmentLength
  if contentLength < segmentEnd then
    -- The last segment may overlap the penultimate one, to keep the sizes uniform.
    let redundantLength ← uintSub segmentEnd contentLength
    let segmentStart ← uintSub contentLength segmentLength
    some (GiphyAssetSegment.new index segmentStart segmentLength redundantLength)
  else some (GiphyAssetSegment.new index nextSegmentStart segmentLength 0)

/-- The loop of `createSegments()`, for so many turns at most. -/
def createSegmentsLoop (contentLength segmentLength : ℕ) :
    ℕ → ℕ → ℕ → Option (List GiphyAssetSegment)
  | 0, _, _ => none
  | turns + 1, nextSegmentStart, index =>
      if nextSegmentStart < contentLength then do
        let segment ← createSegment contentLength segmentLength nextSegmentStart index
        let nextSegmentStart ← uintAdd segment.segmentStart segmentLength
        let index ← uintAdd index 1
        let segments ←
          createSegmentsLoop contentLength segmentLength turns nextSegmentStart index
        some (segment :: segments)
      else some []

/-- `createSegments()`, unless it traps or takes more turns. -/
def createSegments (turns contentLength : ℕ) : Option (List GiphyAssetSegment) :=
  if 0 < segmentSize contentLength then
    createSegmentsLoop contentLength (segmentSize contentLength) turns 0 0
  else some []

example : ((createSegments 4 2500).map fun segments => segments.map GiphyAssetSegment.piece) =
    some [⟨0, 1024, 0⟩, ⟨1024, 1024, 0⟩, ⟨1476, 1024, 572⟩] := by decide +kernel

/-! ## What happens to the segments -/

inductive SegmentEvent where
  /-- `processRequestQueueSync()` starts its download. -/
  | start
  /-- `urlSession(_:dataTask:didReceive:)`. -/
  | receive (data : List UInt8)
  /-- `segmentRequestDidSucceed(assetRequest:assetSegment:)`. -/
  | succeed
  /-- `segmentRequestDidFail(assetRequest:assetSegment:)`. -/
  | fail

def SegmentEvent.handle : SegmentEvent → GiphyAssetSegment → GiphyAssetSegment
  | start, segment =>
      if segment.state = .waiting then { segment with state := .downloading } else segment
  | receive data, segment => segment.append data
  | succeed, segment => { segment with state := .complete }
  | fail, segment => { segment with state := .failed }

def SegmentEvent.download (chunks : List (List UInt8)) : List SegmentEvent :=
  start :: (chunks.map receive ++ [succeed])

/-! ## Writing the file -/

/-- The loop of `writeAssetToFile(gifFolderPath:)`. -/
def mergeSegments : List GiphyAssetSegment → List UInt8 → Option (List UInt8)
  | [], assetData => some assetData
  | segment :: segments, assetData =>
      if segment.state = .complete ∧ 0 < segment.totalDataSize then
        (segment.mergeData assetData).bind (mergeSegments segments)
      else none

/-- `writeAssetToFile(gifFolderPath:)`: what is written, if the file can be. -/
def writeAssetToFile (segments : List GiphyAssetSegment) (contentLength : ℕ) (canWrite : Bool) :
    Option (List UInt8) :=
  (mergeSegments segments []).bind fun assetData =>
    if assetData.length = contentLength ∧ 0 < assetData.length ∧ canWrite = true then
      some assetData
    else none

/-! ## The segments make up the resource -/

section Creation

variable {contentLength segmentLength nextSegmentStart index turns : ℕ}

theorem uintAdd_eq {a b : ℕ} (h : a + b < 2 ^ 64) : uintAdd a b = some (a + b) :=
  if_pos h

theorem uintSub_eq {a b : ℕ} (h : b ≤ a) : uintSub a b = some (a - b) :=
  if_pos h

/-- There is a size, and the resource is not shorter. -/
theorem segmentSize_bounds (h : 0 < contentLength) :
    0 < segmentSize contentLength ∧ segmentSize contentLength ≤ contentLength := by
  rw [segmentSize, if_pos h]
  cases hfind : segmentSizes.find? (· ≤ contentLength) with
  | none => exact ⟨h, Nat.le_refl _⟩
  | some size =>
      have hle := List.find?_some hfind
      refine ⟨?_, of_decide_eq_true hle⟩
      have hsizes : ∀ size ∈ segmentSizes, 0 < size := by decide
      exact hsizes size (List.mem_of_find?_eq_some hfind)

/-- A segment as it is created, within the resource. -/
structure IsCreated (contentLength : ℕ) (segment : GiphyAssetSegment) : Prop where
  state : segment.state = .waiting
  segmentData : segment.segmentData = []
  length_pos : 0 < segment.segmentLength
  end_le : segment.segmentStart + segment.segmentLength ≤ contentLength

/-- One turn: its segment lies within the resource, and brings what follows on the last. -/
theorem createSegment_eq (hpos : 0 < segmentLength) (hle : segmentLength ≤ contentLength)
    (hmax : contentLength < 2 ^ 63) (hnext : nextSegmentStart < contentLength) :
    ∃ segment, createSegment contentLength segmentLength nextSegmentStart index = some segment ∧
      IsCreated contentLength segment ∧ segment.segmentLength = segmentLength ∧
      segment.segmentStart + segment.redundantLength = nextSegmentStart ∧
      segment.redundantLength ≤ segmentLength ∧
      nextSegmentStart < segment.segmentStart + segmentLength := by
  have hsum : uintAdd nextSegmentStart segmentLength =
      some (nextSegmentStart + segmentLength) := uintAdd_eq (by omega)
  rw [createSegment, hsum]
  by_cases hlast : contentLength < nextSegmentStart + segmentLength
  · have hredundant : uintSub (nextSegmentStart + segmentLength) contentLength =
        some (nextSegmentStart + segmentLength - contentLength) := uintSub_eq (Nat.le_of_lt hlast)
    refine ⟨GiphyAssetSegment.new index (contentLength - segmentLength) segmentLength
      (nextSegmentStart + segmentLength - contentLength), ?_, ⟨rfl, rfl, hpos, ?_⟩, rfl, ?_, ?_, ?_⟩
    · simp [hlast, hredundant, uintSub_eq hle]
    all_goals
      simp only [GiphyAssetSegment.new]
      omega
  · refine ⟨GiphyAssetSegment.new index nextSegmentStart segmentLength 0, ?_,
      ⟨rfl, rfl, hpos, ?_⟩, rfl, rfl, Nat.zero_le _, ?_⟩
    · simp [hlast]
    all_goals
      simp only [GiphyAssetSegment.new]
      omega

/-- **The loop ends**, and its segments make up what is left of the resource. -/
theorem createSegmentsLoop_eq (hpos : 0 < segmentLength) (hle : segmentLength ≤ contentLength)
    (hmax : contentLength < 2 ^ 63) (hnext : nextSegmentStart ≤ contentLength)
    (hindex : index ≤ nextSegmentStart) (hturns : contentLength - nextSegmentStart < turns) :
    ∃ segments,
      createSegmentsLoop contentLength segmentLength turns nextSegmentStart index =
          some segments ∧
        (∀ segment ∈ segments, IsCreated contentLength segment) ∧
        Piece.Tiles nextSegmentStart contentLength (segments.map GiphyAssetSegment.piece) := by
  induction turns generalizing nextSegmentStart index with
  | zero => exact absurd hturns (Nat.not_lt_zero _)
  | succ turns ih =>
      rw [createSegmentsLoop]
      by_cases hmore : nextSegmentStart < contentLength
      · obtain ⟨segment, hsegment, hcreated, hlength, hstart, hredundant, hlt⟩ :=
          @createSegment_eq _ _ _ index hpos hle hmax hmore
        -- The next segment begins where this one ends; the sums are below 2 ^ 64.
        have hend := hcreated.end_le
        rw [hlength] at hend
        obtain ⟨segments, hloop, hall, htiles⟩ :=
          @ih (segment.segmentStart + segmentLength) (index + 1) hend (by omega) (by omega)
        refine ⟨segment :: segments, ?_, List.forall_mem_cons.mpr ⟨hcreated, hall⟩, hstart, ?_, ?_⟩
        · have hsum : uintAdd segment.segmentStart segmentLength =
              some (segment.segmentStart + segmentLength) := uintAdd_eq (by omega)
          have hsucc : uintAdd index 1 = some (index + 1) := uintAdd_eq (by omega)
          simp [hmore, hsegment, hsum, hsucc, hloop]
        · show segment.redundantLength ≤ segment.segmentLength
          omega
        · rw [← hlength] at htiles
          exact htiles
      · rw [if_neg hmore]
        refine ⟨[], rfl, fun segment hmem => absurd hmem List.not_mem_nil, ?_⟩
        exact Nat.le_antisymm hnext (Nat.le_of_not_lt hmore)

/-- **The segments make up the resource**, and are there after so many turns. -/
theorem tiles_createSegments (hpos : 0 < contentLength) (hmax : contentLength < 2 ^ 63)
    (hturns : contentLength < turns) :
    ∃ segments, createSegments turns contentLength = some segments ∧
      (∀ segment ∈ segments, IsCreated contentLength segment) ∧
      Piece.Tiles 0 contentLength (segments.map GiphyAssetSegment.piece) := by
  obtain ⟨hsize, hle⟩ := segmentSize_bounds hpos
  rw [createSegments, if_pos hsize]
  exact createSegmentsLoop_eq hsize hle hmax (Nat.zero_le _) (Nat.le_refl _) (by omega)

end Creation

/-! ## Merging -/

/-- A segment that is complete, with its range of the resource. -/
structure HoldsRange (resource : List UInt8) (segment : GiphyAssetSegment) : Prop where
  state : segment.state = .complete
  segmentData : segment.segmentData = segment.piece.of resource
  length_pos : 0 < segment.segmentLength
  end_le : segment.segmentStart + segment.segmentLength ≤ resource.length

section Merging

variable {resource assetData : List UInt8} {segments : List GiphyAssetSegment}

theorem HoldsRange.length_segmentData {segment : GiphyAssetSegment}
    (h : HoldsRange resource segment) : segment.segmentData.length = segment.segmentLength := by
  rw [h.segmentData]
  exact Piece.length_of h.end_le

/-- What a segment adds is what it has that is in none before. -/
theorem HoldsRange.mergeData_eq {segment : GiphyAssetSegment} (h : HoldsRange resource segment) :
    segment.mergeData assetData = some (assetData ++ segment.piece.fresh resource) := by
  have hlength := h.length_segmentData
  rw [GiphyAssetSegment.mergeData, if_pos ⟨h.state, hlength⟩]
  have hfresh : segment.piece.fresh resource =
      segment.segmentData.drop segment.redundantLength := by
    rw [h.segmentData]
    rfl
  rw [hfresh]
  by_cases hredundant : 0 < segment.redundantLength
  · rw [if_pos hredundant, ← hlength, List.take_length]
  · have hzero : segment.redundantLength = 0 := by omega
    rw [if_neg hredundant, hzero, List.drop_zero]

theorem mergeSegments_eq (h : ∀ segment ∈ segments, HoldsRange resource segment) :
    mergeSegments segments assetData =
      some (assetData ++ (segments.map GiphyAssetSegment.piece).flatMap (Piece.fresh resource)) := by
  induction segments generalizing assetData with
  | nil => simp [mergeSegments]
  | cons segment segments ih =>
      rw [List.forall_mem_cons] at h
      have hsize : 0 < segment.totalDataSize := by
        rw [GiphyAssetSegment.totalDataSize, h.1.length_segmentData]
        exact h.1.length_pos
      rw [mergeSegments, if_pos ⟨h.1.state, hsize⟩, h.1.mergeData_eq, Option.bind_some, ih h.2,
        List.map_cons, List.flatMap_cons, List.append_assoc]

theorem complete_of_mergeSegments {merged : List UInt8}
    (h : mergeSegments segments assetData = some merged) :
    ∀ segment ∈ segments, segment.state = .complete ∧
      segment.segmentData.length = segment.segmentLength := by
  induction segments generalizing assetData with
  | nil => exact fun segment hmem => absurd hmem List.not_mem_nil
  | cons segment segments ih =>
      rw [mergeSegments] at h
      split at h
      · obtain ⟨assetData', hmerge, hrest⟩ := Option.bind_eq_some_iff.mp h
        rw [GiphyAssetSegment.mergeData] at hmerge
        split at hmerge
        · rename_i hsegment
          exact List.forall_mem_cons.mpr ⟨hsegment, ih hrest⟩
        · cases hmerge
      · cases h

/-- **The resource is written** by segments that hold their ranges and make it up. -/
theorem writeAssetToFile_eq (htiles : Piece.Tiles 0 resource.length
    (segments.map GiphyAssetSegment.piece)) (hpos : 0 < resource.length)
    (h : ∀ segment ∈ segments, HoldsRange resource segment) :
    writeAssetToFile segments resource.length true = some resource := by
  rw [writeAssetToFile, mergeSegments_eq h, List.nil_append, htiles.flatMap_fresh_whole]
  simp [hpos]

/-- **Nothing is written** where a segment has too little or too much, or is not complete. -/
theorem writeAssetToFile_eq_none {contentLength : ℕ} {canWrite : Bool}
    (h : ∃ segment ∈ segments, segment.state ≠ .complete ∨
      segment.segmentData.length ≠ segment.segmentLength) :
    writeAssetToFile segments contentLength canWrite = none := by
  rw [writeAssetToFile]
  cases hmerge : mergeSegments segments [] with
  | none => rfl
  | some assetData =>
      obtain ⟨segment, hmem, hstate | hlength⟩ := h
      · exact absurd (complete_of_mergeSegments hmerge segment hmem).1 hstate
      · exact absurd (complete_of_mergeSegments hmerge segment hmem).2 hlength

end Merging

/-! ## Downloads -/

section Downloads

variable {segment : GiphyAssetSegment}

theorem piece_handle (event : SegmentEvent) (segment : GiphyAssetSegment) :
    (event.handle segment).piece = segment.piece := by
  cases event with
  | start =>
      rw [SegmentEvent.handle]
      split <;> rfl
  | receive data =>
      rw [SegmentEvent.handle, GiphyAssetSegment.append]
      split <;> rfl
  | succeed | fail => rfl

theorem foldl_receive (chunks : List (List UInt8)) (segment : GiphyAssetSegment)
    (h : segment.state = .downloading) :
    (chunks.map SegmentEvent.receive).foldl (fun segment event => event.handle segment) segment =
      { segment with segmentData := segment.segmentData ++ chunks.flatten } := by
  induction chunks generalizing segment with
  | nil => simp
  | cons chunk chunks ih =>
      have hchunk : (SegmentEvent.receive chunk).handle segment =
          { segment with segmentData := segment.segmentData ++ chunk } := if_pos h
      rw [List.map_cons, List.foldl_cons, hchunk,
        ih { segment with segmentData := segment.segmentData ++ chunk } h, List.flatten_cons,
        List.append_assoc]

/-- **After its download a segment is complete**, with its chunks in a row. -/
theorem foldl_download (chunks : List (List UInt8)) {contentLength : ℕ}
    (h : IsCreated contentLength segment) :
    (SegmentEvent.download chunks).foldl (fun segment event => event.handle segment) segment =
      { segment with
        state := .complete
        segmentData := chunks.flatten } := by
  have hstart : SegmentEvent.start.handle segment = { segment with state := .downloading } :=
    if_pos h.state
  rw [SegmentEvent.download, List.foldl_cons, hstart, List.foldl_append, foldl_receive chunks _ rfl]
  simp [SegmentEvent.handle, h.segmentData]

end Downloads

/-! ## Reassembly -/

def runSegments (segments : List GiphyAssetSegment) (events : List (ℕ × SegmentEvent)) :
    List GiphyAssetSegment :=
  Interleaved.run SegmentEvent.handle segments events

/-- Each segment has received its range of the resource, in chunks of its own, while whatever
happened to the others happened in between. -/
def ReceivesRanges (resource : List UInt8) (segments : List GiphyAssetSegment)
    (events : List (ℕ × SegmentEvent)) : Prop :=
  ∀ i segment, segments[i]? = some segment →
    ∃ chunks : List (List UInt8),
      Interleaved.eventsAt i events = SegmentEvent.download chunks ∧
        chunks.flatten = segment.piece.of resource

/-- **GIF segments reassemble the resource.** -/
theorem reassembles {contentLength turns : ℕ} (hpos : 0 < contentLength)
    (hmax : contentLength < 2 ^ 63) (hturns : contentLength < turns) :
    ∃ segments, createSegments turns contentLength = some segments ∧
      (∀ segment ∈ segments, 0 < segment.segmentLength ∧
        segment.segmentStart + segment.segmentLength ≤ contentLength) ∧
      ∀ events : List (ℕ × SegmentEvent),
        (∀ resource : List UInt8, resource.length = contentLength →
          ReceivesRanges resource segments events →
          writeAssetToFile (runSegments segments events) contentLength true = some resource) ∧
        ∀ canWrite : Bool,
          (∃ segment ∈ runSegments segments events, segment.state ≠ .complete ∨
            segment.segmentData.length ≠ segment.segmentLength) →
          writeAssetToFile (runSegments segments events) contentLength canWrite = none := by
  obtain ⟨segments, hsegments, hcreated, htiles⟩ := tiles_createSegments hpos hmax hturns
  refine ⟨segments, hsegments,
    fun segment hmem => ⟨(hcreated segment hmem).length_pos, (hcreated segment hmem).end_le⟩,
    fun events => ⟨?_, fun canWrite => writeAssetToFile_eq_none⟩⟩
  rintro resource rfl hreceives
  have hpieces : (runSegments segments events).map GiphyAssetSegment.piece =
      segments.map GiphyAssetSegment.piece := Interleaved.map_run piece_handle
  refine writeAssetToFile_eq (hpieces ▸ htiles) hpos ?_
  intro segment hmem
  obtain ⟨i, before, hbefore, rfl⟩ := Interleaved.exists_of_mem_run hmem
  obtain ⟨chunks, hevents, hflatten⟩ := hreceives i before hbefore
  have hcreated' := hcreated before (List.mem_of_getElem? hbefore)
  rw [hevents, foldl_download chunks hcreated', hflatten]
  exact ⟨rfl, rfl, hcreated'.length_pos, hcreated'.end_le⟩

def sampleResource : List UInt8 := (List.range 1500).map .ofNat

/-- The downloads of two segments that overlap, the first in two chunks. -/
def sampleDownloads : List (ℕ × SegmentEvent) :=
  [(0, .start), (1, .start), (0, .receive (sampleResource.take 1000)),
    (1, .receive (sampleResource.drop 476)), (1, .succeed),
    (0, .receive ((sampleResource.drop 1000).take 24)), (0, .succeed)]

theorem reassembles_overlapping :
    ∃ segments, createSegments 1501 1500 = some segments ∧
      segments.map GiphyAssetSegment.piece = [⟨0, 1024, 0⟩, ⟨476, 1024, 548⟩] ∧
      writeAssetToFile (runSegments segments sampleDownloads) 1500 true = some sampleResource := by
  obtain ⟨segments, hsegments, -, hevents⟩ :=
    @reassembles 1500 1501 (by decide) (by decide) (by decide)
  have hpieces : segments.map GiphyAssetSegment.piece = [⟨0, 1024, 0⟩, ⟨476, 1024, 548⟩] := by
    have h : (createSegments 1501 1500).map (·.map GiphyAssetSegment.piece) =
        some [⟨0, 1024, 0⟩, ⟨476, 1024, 548⟩] := by decide +kernel
    rw [hsegments] at h
    exact Option.some.inj h
  refine ⟨segments, hsegments, hpieces, (hevents sampleDownloads).1 _ (by simp [sampleResource]) ?_⟩
  intro i segment hsegment
  have hpiece := congrArg (·[i]?) hpieces
  rw [List.getElem?_map, hsegment, Option.map_some] at hpiece
  match i, hpiece with
  | 0, hpiece =>
      rw [Option.some.inj hpiece]
      exact ⟨[_, _], rfl, by decide +kernel⟩
  | 1, hpiece =>
      rw [Option.some.inj hpiece]
      exact ⟨[_], rfl, by decide +kernel⟩

end ObjcSwiftLearning.Signal
