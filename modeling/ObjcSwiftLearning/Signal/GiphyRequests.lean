import Mathlib.Algebra.Group.Int.Defs
import ObjcSwiftLearning.Signal.GiphySegments

/-!
# Requests for a GIF

A request is asked for its size, then its segments are downloaded, and last its file is
written.  At each stage there is work outstanding for it: a task of the session, the writing of
its file, or a block that has been scheduled on the main queue.

* `GiphyAssetRequest` — a request, with the work outstanding for it and the calls it has made.
* `GiphyAssetRequest.Consistent` — what holds of every request.
* `GiphyAssetRequest.Tracked` — what holds of one that is in the queue: it waits for its turn,
  or for work that is outstanding.
* `GiphyAssetRequest.Tracked.startable` — **with nothing outstanding, it waits for its turn.**
-/

namespace ObjcSwiftLearning.Signal

inductive GiphyRequestPriority where
  | low
  | high
  deriving DecidableEq

inductive GiphyAssetRequestState where
  | waiting
  | requestingSize
  | active
  | complete
  | failed
  deriving DecidableEq

inductive GiphyCallback where
  | success
  | failure
  deriving DecidableEq

/-- What may be outstanding for a request. -/
inductive GiphyWork where
  /-- The `HEAD` request. -/
  | sizeTask
  | segmentTask (i : ℕ)
  /-- The writing of the file, after this segment was the last to complete. -/
  | fileWrite (i : ℕ)
  /-- The block of `handleAssetSizeResponse`. -/
  | setContentLength (contentLength : ℕ)
  /-- The block of `segmentRequestDidSucceed`. -/
  | segmentSucceeded (i : ℕ)
  /-- The block of `segmentRequestDidFail`. -/
  | segmentFailed (i : ℕ)
  /-- The block of `assetRequestDidSucceed`. -/
  | requestSucceeded
  /-- The block of `assetRequestDidFail`. -/
  | requestFailed
  deriving DecidableEq

/-- Work that is not about the size. -/
def GiphyWork.isLater : GiphyWork → Bool
  | sizeTask | setContentLength _ => false
  | _ => true

/-- `GiphyAssetRequest`, with the calls that it has made and the work outstanding for it. -/
structure GiphyAssetRequest where
  /-- `rendition.url`. -/
  url : String
  priority : GiphyRequestPriority
  /-- `success` and `failure` are there. -/
  hasCallbacks : Bool
  wasCancelled : Bool
  segments : List GiphyAssetSegment
  state : GiphyAssetRequestState
  contentLength : ℕ
  calls : List GiphyCallback
  outstanding : List GiphyWork

namespace GiphyAssetRequest

/-- `init(rendition:priority:success:failure:)`. -/
def new (url : String) (priority : GiphyRequestPriority) : GiphyAssetRequest where
  url
  priority
  hasCallbacks := true
  wasCancelled := false
  segments := []
  state := .waiting
  contentLength := 0
  calls := []
  outstanding := []

variable (request : GiphyAssetRequest)

/-- `cancel()`; the tasks are cancelled, and still complete. -/
def cancel : GiphyAssetRequest :=
  { request with
    wasCancelled := true
    hasCallbacks := false }

/-- `requestDidSucceed(asset:)` and `requestDidFail()`. -/
def call (callback : GiphyCallback) : GiphyAssetRequest :=
  if request.hasCallbacks then
    { request with
      calls := request.calls ++ [callback]
      hasCallbacks := false }
  else request

def firstWaitingSegment : Option ℕ :=
  request.segments.findIdx? fun segment => segment.state = .waiting

def downloadingSegmentsCount : ℕ :=
  request.segments.countP fun segment => segment.state = .downloading

def areAllSegmentsComplete : Bool :=
  request.segments.all fun segment => segment.state = .complete

def start (work : GiphyWork) : GiphyAssetRequest :=
  { request with outstanding := request.outstanding ++ [work] }

/-- Some work is done. -/
def finish (work : GiphyWork) : GiphyAssetRequest :=
  { request with outstanding := request.outstanding.erase work }

/-- Something happens to a segment. -/
def handleSegment (i : ℕ) (event : SegmentEvent) : GiphyAssetRequest :=
  { request with segments := request.segments.modify i event.handle }

def fail : GiphyAssetRequest := { request with state := .failed }.start .requestFailed

def startSizeTask : GiphyAssetRequest :=
  { request with state := .requestingSize }.start .sizeTask

def startSegmentTask (i : ℕ) : GiphyAssetRequest :=
  (request.handleSegment i .start).start (.segmentTask i)

def completeFromCache : GiphyAssetRequest :=
  { request with state := .complete }.start .requestSucceeded

/-- `handleAssetSizeResponse(assetRequest:response:error:)`; there is no content length where
one of the guards fails. -/
def handleAssetSizeResponse : Option Int → GiphyAssetRequest
  | some contentLength =>
      if 0 < contentLength then
        (request.finish .sizeTask).start (.setContentLength contentLength.toNat)
      else (request.finish .sizeTask).fail
  | none => (request.finish .sizeTask).fail

/-- What the block of `handleAssetSizeResponse` does to the request: setting the content length
creates the segments. -/
def setContentLength (contentLength : ℕ) : GiphyAssetRequest :=
  { request.finish (.setContentLength contentLength) with
    contentLength
    segments :=
      request.segments ++ (createSegments (contentLength + 1) contentLength).getD []
    state := .active }

/-- `urlSession(_:dataTask:didReceive:)`. -/
def didReceive (i : ℕ) (data : List UInt8) : GiphyAssetRequest :=
  if request.wasCancelled then request.start (.segmentFailed i)
  else request.handleSegment i (.receive data)

/-- `urlSession(_:task:didCompleteWithError:)`; `isSuccess` if there was no error and the status
code is one of success. -/
def didComplete (i : ℕ) (isSuccess : Bool) : GiphyAssetRequest :=
  if request.wasCancelled = false ∧ isSuccess = true ∧
      request.segments[i]?.any (fun segment =>
        segment.totalDataSize = segment.segmentLength) = true then
    (request.finish (.segmentTask i)).start (.segmentSucceeded i)
  else (request.finish (.segmentTask i)).start (.segmentFailed i)

/-- What the block of `segmentRequestDidSucceed` does to the segment. -/
def completeSegment (i : ℕ) : GiphyAssetRequest :=
  (request.finish (.segmentSucceeded i)).handleSegment i .succeed

/-- All segments are complete, and the file is to be written. -/
def startFileWrite (i : ℕ) : GiphyAssetRequest :=
  { request with state := .complete }.start (.fileWrite i)

/-- The file is written, or not. -/
def didWrite (i : ℕ) (canWrite : Bool) : GiphyAssetRequest :=
  if (writeAssetToFile request.segments request.contentLength canWrite).isSome then
    (request.finish (.fileWrite i)).start .requestSucceeded
  else (request.finish (.fileWrite i)).start (.segmentFailed i)

/-- The block of `segmentRequestDidFail`. -/
def failSegment (i : ℕ) : GiphyAssetRequest :=
  ((request.finish (.segmentFailed i)).handleSegment i .fail).fail

/-! ## What holds of every request -/

/-- The size is not being asked for. -/
def NoSizeWork : Prop := ∀ work ∈ request.outstanding, work.isLater = true

/-- What is outstanding at each stage.  Before there are segments nothing but the size is. -/
def AtStage : Prop :=
  match request.state with
  | .waiting => request.outstanding = [] ∧ request.segments = []
  | .requestingSize =>
      request.segments = [] ∧
        (request.outstanding = [.sizeTask] ∨ ∃ contentLength, 0 < contentLength ∧
          contentLength < 2 ^ 63 ∧ request.outstanding = [.setContentLength contentLength])
  | .active | .complete | .failed => request.NoSizeWork

/-- What holds of every request: it makes one call at most, and none after it was cancelled. -/
structure Consistent : Prop where
  calls_le : request.calls.length ≤ 1
  hasCallbacks : request.hasCallbacks = true → request.calls = [] ∧ request.wasCancelled = false
  cleared : request.hasCallbacks = false →
    request.wasCancelled = true ∨ request.calls.length = 1
  atStage : request.AtStage

/-- There is work outstanding that will end this segment. -/
def SegmentUnderWay (i : ℕ) : Prop :=
  .segmentTask i ∈ request.outstanding ∨ .segmentSucceeded i ∈ request.outstanding ∨
    .segmentFailed i ∈ request.outstanding

def segmentState (i : ℕ) : Option GiphyAssetSegmentState :=
  request.segments[i]?.map (·.state)

/-- There is work outstanding that will end the request, once its segments are complete. -/
def CompletionUnderWay : Prop :=
  (∃ i, .fileWrite i ∈ request.outstanding) ∨ (∃ i, .segmentFailed i ∈ request.outstanding) ∨
    .requestSucceeded ∈ request.outstanding

/-- A request in the queue waits for its turn, or for something that is outstanding. -/
def Tracked : Prop :=
  match request.state with
  | .waiting | .requestingSize => True
  | .active =>
      (∃ segment ∈ request.segments, segment.state ≠ .complete) ∧
        ∀ i, request.segmentState i ≠ some .failed ∧
          (request.segmentState i = some .downloading → request.SegmentUnderWay i)
  | .complete => request.CompletionUnderWay
  | .failed => .requestFailed ∈ request.outstanding

/-- It would be its turn if it came first. -/
def IsStartable : Prop :=
  request.state = .waiting ∨
    request.state = .active ∧ request.downloadingSegmentsCount = 0 ∧
      request.firstWaitingSegment ≠ none

end GiphyAssetRequest

/-! ## Segments and work -/

def SegmentEvent.nextState : SegmentEvent → GiphyAssetSegmentState → GiphyAssetSegmentState
  | start, state => if state = .waiting then .downloading else state
  | receive _, state => state
  | succeed, _ => .complete
  | fail, _ => .failed

theorem SegmentEvent.state_handle (event : SegmentEvent) (segment : GiphyAssetSegment) :
    (event.handle segment).state = event.nextState segment.state := by
  cases event with
  | start =>
      rw [handle, nextState]
      split <;> rfl
  | receive data =>
      rw [handle, GiphyAssetSegment.append]
      split <;> rfl
  | succeed | fail => rfl

namespace GiphyAssetRequest

variable {request request' : GiphyAssetRequest} {work : GiphyWork} {i j : ℕ} {other : GiphyWork}

theorem segmentState_handleSegment {event : SegmentEvent} :
    (request.handleSegment i event).segmentState j =
      if i = j then (request.segmentState j).map event.nextState
      else request.segmentState j := by
  rw [segmentState, handleSegment, List.getElem?_modify, segmentState]
  cases request.segments[j]? with
  | none => simp
  | some segment =>
      by_cases h : i = j
      · simp [h, SegmentEvent.state_handle]
      · simp [h]

theorem exists_mem_segments_iff {p : GiphyAssetSegmentState → Prop} :
    (∃ segment ∈ request.segments, p segment.state) ↔
      ∃ i state, request.segmentState i = some state ∧ p state := by
  constructor
  · rintro ⟨segment, hmem, hp⟩
    obtain ⟨i, hi⟩ := List.mem_iff_getElem?.mp hmem
    refine ⟨i, segment.state, ?_, hp⟩
    rw [segmentState, hi, Option.map_some]
  · rintro ⟨i, state, hi, hp⟩
    obtain ⟨segment, hsegment, rfl⟩ := Option.map_eq_some_iff.mp hi
    exact ⟨segment, List.mem_of_getElem? hsegment, hp⟩

theorem segmentState_of_firstWaitingSegment (h : request.firstWaitingSegment = some i) :
    request.segmentState i = some .waiting := by
  obtain ⟨hlt, hwaiting, -⟩ := List.findIdx?_eq_some_iff_getElem.mp h
  rw [segmentState, List.getElem?_eq_getElem hlt, Option.map_some]
  exact congrArg some (of_decide_eq_true hwaiting)

theorem firstWaitingSegment_ne_none (h : request.segmentState i = some .waiting) :
    request.firstWaitingSegment ≠ none := by
  obtain ⟨segment, hsegment, hwaiting⟩ := Option.map_eq_some_iff.mp h
  intro hnone
  have hnot := List.findIdx?_eq_none_iff.mp hnone segment (List.mem_of_getElem? hsegment)
  exact of_decide_eq_false hnot hwaiting

/-- What is still outstanding when something else is done. -/
theorem mem_finish (h : other ∈ request.outstanding) (hne : other ≠ work) :
    other ∈ (request.finish work).outstanding :=
  (List.mem_erase_of_ne hne).mpr h

theorem mem_of_mem_finish (h : other ∈ (request.finish work).outstanding) :
    other ∈ request.outstanding :=
  List.mem_of_mem_erase h

theorem mem_start : work ∈ (request.start work).outstanding :=
  List.mem_append_right _ (List.mem_singleton_self _)

theorem mem_start_of_mem (h : other ∈ request.outstanding) :
    other ∈ (request.start work).outstanding :=
  List.mem_append_left _ h

/-! ## Stages -/

theorem NoSizeWork.finish (h : request.NoSizeWork) : (request.finish work).NoSizeWork :=
  fun other hmem => h other (mem_of_mem_finish hmem)

theorem NoSizeWork.start (h : request.NoSizeWork) (hwork : work.isLater = true) :
    (request.start work).NoSizeWork := by
  intro other hmem
  obtain hmem | hmem := List.mem_append.mp hmem
  · exact h other hmem
  · exact List.mem_singleton.mp hmem ▸ hwork

theorem noSizeWork_of_nil (h : request.outstanding = []) : request.NoSizeWork := by
  intro work hmem
  rw [h] at hmem
  exact absurd hmem List.not_mem_nil

/-- The request has its segments, or has failed before. -/
def IsLater (request : GiphyAssetRequest) : Prop :=
  request.state = .active ∨ request.state = .complete ∨ request.state = .failed

theorem atStage_of_isLater (hlater : request.IsLater) (h : request.NoSizeWork) :
    request.AtStage := by
  unfold AtStage
  obtain hstate | hstate | hstate := hlater
  all_goals
    rw [hstate]
    exact h

/-- Unless its size is being asked for, no work is about that. -/
theorem AtStage.noSizeWork (h : request.AtStage) (hstate : request.state ≠ .requestingSize) :
    request.NoSizeWork := by
  unfold AtStage at h
  cases hcase : request.state with
  | waiting =>
      rw [hcase] at h
      exact noSizeWork_of_nil h.1
  | requestingSize => exact absurd hcase hstate
  | active | complete | failed =>
      rw [hcase] at h
      exact h

theorem AtStage.isLater (h : request.AtStage) (hmem : work ∈ request.outstanding)
    (hwork : work.isLater = true) : request.IsLater := by
  unfold AtStage at h
  cases hcase : request.state with
  | waiting =>
      rw [hcase] at h
      rw [h.1] at hmem
      exact absurd hmem List.not_mem_nil
  | requestingSize =>
      rw [hcase] at h
      obtain ⟨-, houtstanding | ⟨contentLength, -, -, houtstanding⟩⟩ := h
      · rw [houtstanding] at hmem
        cases List.mem_singleton.mp hmem
        cases hwork
      · rw [houtstanding] at hmem
        cases List.mem_singleton.mp hmem
        cases hwork
  | active => exact Or.inl hcase
  | complete => exact Or.inr (Or.inl hcase)
  | failed => exact Or.inr (Or.inr hcase)

theorem IsLater.ne_requestingSize (h : request.IsLater) : request.state ≠ .requestingSize := by
  intro hstate
  obtain hactive | hcomplete | hfailed := h
  · exact absurd (hstate.symm.trans hactive) (by decide)
  · exact absurd (hstate.symm.trans hcomplete) (by decide)
  · exact absurd (hstate.symm.trans hfailed) (by decide)

theorem AtStage.of_sizeTask (h : request.AtStage) (hmem : .sizeTask ∈ request.outstanding) :
    request.state = .requestingSize ∧ request.segments = [] ∧
      request.outstanding = [.sizeTask] := by
  by_cases hstate : request.state = .requestingSize
  · unfold AtStage at h
    rw [hstate] at h
    obtain ⟨hsegments, houtstanding | ⟨contentLength, -, -, houtstanding⟩⟩ := h
    · exact ⟨hstate, hsegments, houtstanding⟩
    · rw [houtstanding] at hmem
      cases List.mem_singleton.mp hmem
  · exact absurd (h.noSizeWork hstate _ hmem) (by decide)

theorem AtStage.of_setContentLength {contentLength : ℕ} (h : request.AtStage)
    (hmem : .setContentLength contentLength ∈ request.outstanding) :
    0 < contentLength ∧ contentLength < 2 ^ 63 ∧ request.segments = [] ∧
      request.outstanding = [.setContentLength contentLength] := by
  by_cases hstate : request.state = .requestingSize
  · unfold AtStage at h
    rw [hstate] at h
    obtain ⟨hsegments, houtstanding | ⟨other, hpos, hmax, houtstanding⟩⟩ := h
    · rw [houtstanding] at hmem
      cases List.mem_singleton.mp hmem
    · rw [houtstanding] at hmem
      cases List.mem_singleton.mp hmem
      exact ⟨hpos, hmax, hsegments, houtstanding⟩
  · cases h.noSizeWork hstate _ hmem

/-! ## Steps of a request -/

/-- The request makes no call, and stays as it should be. -/
structure Advances (request request' : GiphyAssetRequest) : Prop where
  calls : request'.calls = request.calls
  hasCallbacks : request'.hasCallbacks = request.hasCallbacks
  wasCancelled : request'.wasCancelled = request.wasCancelled
  atStage : request'.AtStage
  tracked : request.Tracked → request'.Tracked

theorem Consistent.advance (h : request.Consistent) (hadvances : request.Advances request') :
    request'.Consistent where
  calls_le := hadvances.calls ▸ h.calls_le
  hasCallbacks := by
    rw [hadvances.hasCallbacks, hadvances.calls, hadvances.wasCancelled]
    exact h.hasCallbacks
  cleared := by
    rw [hadvances.hasCallbacks, hadvances.calls, hadvances.wasCancelled]
    exact h.cleared
  atStage := hadvances.atStage

theorem tracked_active_iff (hstate : request.state = .active) :
    request.Tracked ↔
      (∃ i state, request.segmentState i = some state ∧ state ≠ .complete) ∧
        ∀ i, request.segmentState i ≠ some .failed ∧
          (request.segmentState i = some .downloading → request.SegmentUnderWay i) := by
  rw [Tracked, hstate, ← exists_mem_segments_iff]

theorem tracked_complete_iff (hstate : request.state = .complete) :
    request.Tracked ↔ request.CompletionUnderWay := by
  rw [Tracked, hstate]

theorem tracked_failed_iff (hstate : request.state = .failed) :
    request.Tracked ↔ .requestFailed ∈ request.outstanding := by
  rw [Tracked, hstate]

/-- What is tracked stays so while the states stay and nothing that counts is done. -/
theorem Tracked.of_same (hstate : request'.state = request.state)
    (hsegments : ∀ j, request'.segmentState j = request.segmentState j)
    (hunderWay : ∀ j, request.SegmentUnderWay j → request'.SegmentUnderWay j)
    (hcompletion : request.CompletionUnderWay → request'.CompletionUnderWay)
    (hfailed : .requestFailed ∈ request.outstanding → .requestFailed ∈ request'.outstanding)
    (h : request.Tracked) : request'.Tracked := by
  cases hcase : request.state with
  | waiting | requestingSize =>
      rw [Tracked, hstate, hcase]
      trivial
  | active =>
      rw [tracked_active_iff (hstate.trans hcase)]
      obtain ⟨hexists, hall⟩ := (tracked_active_iff hcase).mp h
      simp only [hsegments]
      exact ⟨hexists,
        fun j => ⟨(hall j).1, fun hdownloading => hunderWay j ((hall j).2 hdownloading)⟩⟩
  | complete =>
      exact (tracked_complete_iff (hstate.trans hcase)).mpr
        (hcompletion ((tracked_complete_iff hcase).mp h))
  | failed =>
      exact (tracked_failed_iff (hstate.trans hcase)).mpr
        (hfailed ((tracked_failed_iff hcase).mp h))

theorem SegmentUnderWay.start (h : request.SegmentUnderWay i) :
    (request.start work).SegmentUnderWay i :=
  h.imp mem_start_of_mem (Or.imp mem_start_of_mem mem_start_of_mem)

theorem CompletionUnderWay.start (h : request.CompletionUnderWay) :
    (request.start work).CompletionUnderWay := by
  obtain ⟨i, hmem⟩ | ⟨i, hmem⟩ | hmem := h
  · exact Or.inl ⟨i, mem_start_of_mem hmem⟩
  · exact Or.inr (Or.inl ⟨i, mem_start_of_mem hmem⟩)
  · exact Or.inr (Or.inr (mem_start_of_mem hmem))

theorem Tracked.start (h : request.Tracked) : (request.start work).Tracked := by
  refine @Tracked.of_same request _ rfl (fun _ => rfl) ?_ ?_ mem_start_of_mem h
  · exact fun _ => SegmentUnderWay.start
  · exact CompletionUnderWay.start

theorem SegmentUnderWay.finish (h : request.SegmentUnderWay i)
    (hne : work ≠ .segmentTask i ∧ work ≠ .segmentSucceeded i ∧ work ≠ .segmentFailed i) :
    (request.finish work).SegmentUnderWay i := by
  obtain hmem | hmem | hmem := h
  · exact Or.inl (mem_finish hmem hne.1.symm)
  · exact Or.inr (Or.inl (mem_finish hmem hne.2.1.symm))
  · exact Or.inr (Or.inr (mem_finish hmem hne.2.2.symm))

theorem CompletionUnderWay.finish (h : request.CompletionUnderWay)
    (hne : (∀ i, work ≠ .fileWrite i) ∧ (∀ i, work ≠ .segmentFailed i) ∧
      work ≠ .requestSucceeded) :
    (request.finish work).CompletionUnderWay := by
  obtain ⟨i, hmem⟩ | ⟨i, hmem⟩ | hmem := h
  · exact Or.inl ⟨i, mem_finish hmem (hne.1 i).symm⟩
  · exact Or.inr (Or.inl ⟨i, mem_finish hmem (hne.2.1 i).symm⟩)
  · exact Or.inr (Or.inr (mem_finish hmem hne.2.2.symm))

theorem advances_fail (h : request.NoSizeWork) : request.Advances request.fail where
  calls := rfl
  hasCallbacks := rfl
  wasCancelled := rfl
  atStage := by
    refine atStage_of_isLater (Or.inr (Or.inr rfl)) ?_
    exact NoSizeWork.start h rfl
  tracked _ := mem_start

theorem advances_completeFromCache (h : request.NoSizeWork) :
    request.Advances request.completeFromCache where
  calls := rfl
  hasCallbacks := rfl
  wasCancelled := rfl
  atStage := by
    refine atStage_of_isLater (Or.inr (Or.inl rfl)) ?_
    exact NoSizeWork.start h rfl
  tracked _ := Or.inr (Or.inr mem_start)

theorem advances_startSizeTask (h : request.AtStage) (hwaiting : request.state = .waiting) :
    request.Advances request.startSizeTask := by
  unfold AtStage at h
  rw [hwaiting] at h
  refine ⟨rfl, rfl, rfl, ⟨h.2, Or.inl ?_⟩, fun _ => trivial⟩
  show request.outstanding ++ [.sizeTask] = [.sizeTask]
  rw [h.1, List.nil_append]

theorem advances_startSegmentTask (h : request.AtStage) (hactive : request.state = .active)
    (hfirst : request.firstWaitingSegment = some i) :
    request.Advances (request.startSegmentTask i) := by
  have hwaiting := segmentState_of_firstWaitingSegment hfirst
  have hsegments : ∀ j, (request.startSegmentTask i).segmentState j =
      if i = j then some .downloading else request.segmentState j := by
    intro j
    have hhandle : (request.startSegmentTask i).segmentState j =
        (request.handleSegment i .start).segmentState j := rfl
    rw [hhandle, segmentState_handleSegment]
    by_cases hij : i = j
    · subst hij
      simp [hwaiting, SegmentEvent.nextState]
    · simp [hij]
  refine ⟨rfl, rfl, rfl, ?_, ?_⟩
  · refine atStage_of_isLater (Or.inl hactive) ?_
    exact NoSizeWork.start (h.noSizeWork (by simp [hactive])) rfl
  · intro htracked
    have hactive' : (request.startSegmentTask i).state = .active := hactive
    obtain ⟨-, hall⟩ := (tracked_active_iff hactive).mp htracked
    rw [tracked_active_iff hactive']
    -- The segment is under way by its task; the others are as they were.
    refine ⟨⟨i, .downloading, by rw [hsegments, if_pos rfl], by decide⟩, fun j => ?_⟩
    rw [hsegments]
    by_cases hij : i = j
    · subst hij
      rw [if_pos rfl]
      exact ⟨by decide, fun _ => Or.inl mem_start⟩
    · rw [if_neg hij]
      exact ⟨(hall j).1, fun hdownloading => ((hall j).2 hdownloading).start⟩

theorem advances_handleAssetSizeResponse {response : Option Int} (h : request.AtStage)
    (hmem : .sizeTask ∈ request.outstanding)
    (hmax : ∀ contentLength, response = some contentLength → contentLength < 2 ^ 63) :
    request.Advances (request.handleAssetSizeResponse response) := by
  obtain ⟨hstate, hsegments, houtstanding⟩ := h.of_sizeTask hmem
  have hfinish : (request.finish .sizeTask).outstanding = [] := by
    rw [finish, houtstanding]
    rfl
  have hfail : request.Advances (request.finish .sizeTask).fail := by
    obtain ⟨hcalls, hcallbacks, hcancelled, hstage, -⟩ :=
      advances_fail (noSizeWork_of_nil hfinish)
    exact ⟨hcalls, hcallbacks, hcancelled, hstage, fun _ => mem_start⟩
  cases response with
  | none => exact hfail
  | some contentLength =>
      rw [handleAssetSizeResponse]
      by_cases hpos : 0 < contentLength
      · rw [if_pos hpos]
        have hbound := hmax contentLength rfl
        refine ⟨rfl, rfl, rfl, ?_, fun _ => ?_⟩
        · unfold AtStage
          have hstate' : ((request.finish .sizeTask).start
              (.setContentLength contentLength.toNat)).state = .requestingSize := hstate
          rw [hstate']
          refine ⟨hsegments, Or.inr ⟨contentLength.toNat, by omega, by omega, ?_⟩⟩
          rw [start, hfinish, List.nil_append]
        · unfold Tracked
          have hstate' : ((request.finish .sizeTask).start
              (.setContentLength contentLength.toNat)).state = .requestingSize := hstate
          rw [hstate']
          trivial
      · rw [if_neg hpos]
        exact hfail

theorem advances_setContentLength {contentLength : ℕ} (h : request.AtStage)
    (hmem : .setContentLength contentLength ∈ request.outstanding) :
    request.Advances (request.setContentLength contentLength) := by
  obtain ⟨hpos, hmax, hsegments, houtstanding⟩ := h.of_setContentLength hmem
  obtain ⟨segments, hcreate, hcreated, htiles⟩ :=
    tiles_createSegments hpos hmax (Nat.lt_succ_self contentLength)
  have hsegments' : (request.setContentLength contentLength).segments = segments := by
    rw [setContentLength, hcreate, hsegments]
    rfl
  have hwaiting : ∀ i state,
      (request.setContentLength contentLength).segmentState i = some state →
        state = .waiting := by
    intro i state hi
    rw [segmentState, hsegments'] at hi
    obtain ⟨segment, hsegment, rfl⟩ := Option.map_eq_some_iff.mp hi
    exact (hcreated segment (List.mem_of_getElem? hsegment)).state
  refine ⟨rfl, rfl, rfl, ?_, fun _ => ?_⟩
  · refine atStage_of_isLater (Or.inl rfl) (noSizeWork_of_nil ?_)
    show request.outstanding.erase (.setContentLength contentLength) = []
    rw [houtstanding, List.erase_cons_head]
  · rw [tracked_active_iff rfl]
    constructor
    · cases segments with
      | nil => exact absurd htiles (Nat.ne_of_lt hpos)
      | cons segment segments =>
          have hfirst : (request.setContentLength contentLength).segmentState 0 =
              some segment.state := by
            rw [segmentState, hsegments']
            rfl
          -- The length is positive, so there is a first segment, and it waits.
          refine ⟨0, segment.state, hfirst, ?_⟩
          rw [hwaiting 0 segment.state hfirst]
          decide
    · intro i
      constructor
      · intro hfailed
        cases hwaiting i _ hfailed
      · intro hdownloading
        cases hwaiting i _ hdownloading

theorem segmentState_receive {data : List UInt8} :
    (request.handleSegment i (.receive data)).segmentState j = request.segmentState j := by
  rw [segmentState_handleSegment]
  split
  · cases request.segmentState j <;> rfl
  · rfl

section

variable (h : request.AtStage)
include h

theorem advances_didReceive {data : List UInt8} (hmem : .segmentTask i ∈ request.outstanding) :
    request.Advances (request.didReceive i data) := by
  have hlater := h.isLater hmem rfl
  have hnone := h.noSizeWork hlater.ne_requestingSize
  rw [didReceive]
  split
  · exact ⟨rfl, rfl, rfl, atStage_of_isLater hlater (hnone.start rfl), Tracked.start⟩
  · refine ⟨rfl, rfl, rfl, atStage_of_isLater hlater hnone, ?_⟩
    exact Tracked.of_same rfl (fun _ => segmentState_receive) (fun _ => id) id id

theorem advances_finish_segmentTask (hmem : .segmentTask i ∈ request.outstanding)
    (hwork : work = .segmentSucceeded i ∨ work = .segmentFailed i) :
    request.Advances ((request.finish (.segmentTask i)).start work) := by
  have hlater := h.isLater hmem rfl
  have hnone := h.noSizeWork hlater.ne_requestingSize
  have hisLater : work.isLater = true := by
    obtain rfl | rfl := hwork <;> rfl
  refine ⟨rfl, rfl, rfl, atStage_of_isLater hlater (hnone.finish.start hisLater), ?_⟩
  refine Tracked.of_same rfl (fun _ => rfl) (fun j hunderWay => ?_) (fun hcompletion => ?_)
    (fun hfailed => mem_start_of_mem (mem_finish hfailed (by simp)))
  · by_cases hij : i = j
    · subst hij
      obtain rfl | rfl := hwork
      · exact Or.inr (Or.inl mem_start)
      · exact Or.inr (Or.inr mem_start)
    · exact (hunderWay.finish ⟨by simp [hij], by simp, by simp⟩).start
  · exact (hcompletion.finish ⟨by simp, by simp, by simp⟩).start

theorem advances_didComplete {isSuccess : Bool} (hmem : .segmentTask i ∈ request.outstanding) :
    request.Advances (request.didComplete i isSuccess) := by
  rw [didComplete]
  split
  · exact advances_finish_segmentTask h hmem (Or.inl rfl)
  · exact advances_finish_segmentTask h hmem (Or.inr rfl)

theorem advances_completeSegment (hmem : .segmentSucceeded i ∈ request.outstanding)
    (hmore : (request.completeSegment i).areAllSegmentsComplete = false) :
    request.Advances (request.completeSegment i) := by
  have hlater := h.isLater hmem rfl
  have hnone := h.noSizeWork hlater.ne_requestingSize
  refine ⟨rfl, rfl, rfl, atStage_of_isLater hlater hnone.finish, fun htracked => ?_⟩
  obtain hstate | hstate | hstate := hlater
  · have hstate' : (request.completeSegment i).state = .active := hstate
    obtain ⟨-, hall⟩ := (tracked_active_iff hstate).mp htracked
    rw [tracked_active_iff hstate', ← exists_mem_segments_iff]
    constructor
    · obtain ⟨segment, hsegment, hcomplete⟩ := List.all_eq_false.mp hmore
      exact ⟨segment, hsegment, fun heq => hcomplete (decide_eq_true heq)⟩
    · intro j
      have hsegment : (request.completeSegment i).segmentState j =
          if i = j then (request.segmentState j).map (SegmentEvent.succeed).nextState
          else request.segmentState j := segmentState_handleSegment
      -- The segment that has succeeded is neither failed nor downloading; another keeps its work.
      rw [hsegment]
      by_cases hij : i = j
      · rw [if_pos hij]
        cases request.segmentState j with
        | none => exact ⟨by decide, fun hdownloading => by cases hdownloading⟩
        | some state =>
            exact ⟨fun hfailed => (by cases hfailed), fun hdownloading => by cases hdownloading⟩
      · rw [if_neg hij]
        refine ⟨(hall j).1, fun hdownloading => ?_⟩
        exact SegmentUnderWay.finish ((hall j).2 hdownloading) ⟨by simp, by simp [hij], by simp⟩
  -- A request that has failed or completed before is kept by other work than this block.
  · have hstate' : (request.completeSegment i).state = .complete := hstate
    rw [tracked_complete_iff hstate] at htracked
    rw [tracked_complete_iff hstate']
    exact CompletionUnderWay.finish htracked ⟨by simp, by simp, by simp⟩
  · have hstate' : (request.completeSegment i).state = .failed := hstate
    rw [tracked_failed_iff hstate] at htracked
    rw [tracked_failed_iff hstate']
    exact mem_finish htracked (by simp)

theorem advances_startFileWrite (hmem : .segmentSucceeded i ∈ request.outstanding) :
    request.Advances ((request.completeSegment i).startFileWrite i) := by
  have hnone := h.noSizeWork (h.isLater hmem rfl).ne_requestingSize
  refine ⟨rfl, rfl, rfl, ?_, fun _ => ?_⟩
  · refine atStage_of_isLater (Or.inr (Or.inl rfl)) ?_
    exact NoSizeWork.start (NoSizeWork.finish hnone) rfl
  · rw [tracked_complete_iff rfl]
    exact Or.inl ⟨i, mem_start⟩

theorem advances_didWrite {canWrite : Bool} (hmem : .fileWrite i ∈ request.outstanding) :
    request.Advances (request.didWrite i canWrite) := by
  have hlater := h.isLater hmem rfl
  have hnone := h.noSizeWork hlater.ne_requestingSize
  rw [didWrite]
  split
  · refine ⟨rfl, rfl, rfl, atStage_of_isLater hlater (hnone.finish.start rfl), ?_⟩
    refine Tracked.of_same rfl (fun _ => rfl) (fun j hunderWay => ?_)
      (fun _ => Or.inr (Or.inr mem_start))
      (fun hfailed => mem_start_of_mem (mem_finish hfailed (by simp)))
    exact (hunderWay.finish ⟨by simp, by simp, by simp⟩).start
  · refine ⟨rfl, rfl, rfl, atStage_of_isLater hlater (hnone.finish.start rfl), ?_⟩
    refine Tracked.of_same rfl (fun _ => rfl) (fun j hunderWay => ?_)
      (fun _ => Or.inr (Or.inl ⟨i, mem_start⟩))
      (fun hfailed => mem_start_of_mem (mem_finish hfailed (by simp)))
    exact (hunderWay.finish ⟨by simp, by simp, by simp⟩).start

theorem advances_failSegment (hmem : .segmentFailed i ∈ request.outstanding) :
    request.Advances (request.failSegment i) := by
  have hnone := h.noSizeWork (h.isLater hmem rfl).ne_requestingSize
  obtain ⟨hcalls, hcallbacks, hcancelled, hstage, -⟩ :=
    @advances_fail ((request.finish (.segmentFailed i)).handleSegment i .fail)
      (NoSizeWork.finish hnone)
  exact ⟨hcalls, hcallbacks, hcancelled, hstage, fun _ => mem_start⟩

end

/-! ## Calls -/

theorem Consistent.call {callback : GiphyCallback} (h : request.Consistent)
    (hmem : work ∈ request.outstanding) (hwork : work.isLater = true) :
    ((request.finish work).call callback).Consistent := by
  have hlater := h.atStage.isLater hmem hwork
  have hnone := h.atStage.noSizeWork hlater.ne_requestingSize
  rw [GiphyAssetRequest.call]
  split
  · rename_i hcallbacks
    obtain ⟨hcalls, -⟩ := h.hasCallbacks hcallbacks
    have hone : (request.calls ++ [callback]).length = 1 := by
      rw [hcalls]
      rfl
    exact ⟨Nat.le_of_eq hone, fun hcleared => (by cases hcleared), fun _ => Or.inr hone,
      atStage_of_isLater hlater hnone.finish⟩
  · exact ⟨h.calls_le, h.hasCallbacks, h.cleared, atStage_of_isLater hlater hnone.finish⟩

theorem Consistent.cancel (h : request.Consistent) : request.cancel.Consistent :=
  ⟨h.calls_le, fun hcleared => (by cases hcleared), fun _ => Or.inl rfl, h.atStage⟩

theorem consistent_new (url : String) (priority : GiphyRequestPriority) :
    (new url priority).Consistent :=
  ⟨Nat.zero_le _, fun _ => ⟨rfl, rfl⟩, fun hcleared => (by cases hcleared), ⟨rfl, rfl⟩⟩

/-! ## Nothing outstanding -/

/-- **With nothing outstanding, a request in the queue waits for its turn.** -/
theorem Tracked.startable (h : request.Tracked) (hstage : request.AtStage)
    (hnone : request.outstanding = []) : request.IsStartable := by
  have hnothing : ∀ work, work ∉ request.outstanding := by
    intro work
    rw [hnone]
    exact List.not_mem_nil
  cases hstate : request.state with
  | waiting => exact Or.inl hstate
  | requestingSize =>
      unfold AtStage at hstage
      rw [hstate] at hstage
      obtain ⟨-, houtstanding | ⟨contentLength, -, -, houtstanding⟩⟩ := hstage
      · cases hnone.symm.trans houtstanding
      · cases hnone.symm.trans houtstanding
  | active =>
      obtain ⟨⟨i, state, hi, hstate'⟩, hall⟩ := (tracked_active_iff hstate).mp h
      -- No segment has failed or is downloading, so the one that is not complete waits.
      have hnotDownloading : ∀ j, request.segmentState j ≠ some .downloading := by
        intro j hdownloading
        obtain hmem | hmem | hmem := (hall j).2 hdownloading
        all_goals exact hnothing _ hmem
      have hcount : request.downloadingSegmentsCount = 0 := by
        rw [downloadingSegmentsCount, List.countP_eq_zero]
        intro segment hmem hdownloading
        obtain ⟨j, hj⟩ := List.mem_iff_getElem?.mp hmem
        refine hnotDownloading j ?_
        rw [segmentState, hj, Option.map_some, of_decide_eq_true hdownloading]
      refine Or.inr ⟨hstate, hcount, ?_⟩
      cases state with
      | waiting => exact firstWaitingSegment_ne_none hi
      | downloading => exact absurd hi (hnotDownloading i)
      | complete => exact absurd rfl hstate'
      | failed => exact absurd hi (hall i).1
  | complete =>
      obtain ⟨i, hmem⟩ | ⟨i, hmem⟩ | hmem := (tracked_complete_iff hstate).mp h
      all_goals exact absurd hmem (hnothing _)
  | failed => exact absurd ((tracked_failed_iff hstate).mp h) (hnothing _)

end GiphyAssetRequest

end ObjcSwiftLearning.Signal
