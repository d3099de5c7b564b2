import Mathlib.Algebra.GroupWithZero.Nat
import Mathlib.Algebra.Order.BigOperators.Group.List
import Mathlib.Algebra.Order.Group.Nat
import Mathlib.Logic.Function.Basic
import ObjcSwiftLearning.Library.LabelledRun
import ObjcSwiftLearning.Signal.GiphyRequests

/-!
# The queue of GIF requests

`GiphyDownloader` starts a few tasks at a time, for the requests that come first.  Whatever ends
a request takes it out of the queue, and whatever ends a task has the queue processed again.

* `GiphyDownloader.step` — what may happen, one thing at a time.  What is outstanding may end in
  any order, the blocks of the main queue among it, the order of which nothing depends on.
* `GiphyDownloader.processLoop_eq` — processing the queue comes to an end.
* `GiphyDownloader.IsAwake` — while there is something to start, something will start it.
* `completesOnce` — **each request makes one call at most, and none after it was cancelled; and
  with nothing outstanding the queue is empty, and each request not cancelled has made its call.**
-/

namespace ObjcSwiftLearning.Signal

/-- `GiphyDownloader`, with the requests that there have been, by number. -/
structure GiphyDownloader where
  requests : ℕ → GiphyAssetRequest
  requestCount : ℕ
  assetRequestQueue : List ℕ
  /-- The keys of the cache, the stalest first. -/
  assetMap : List String
  isAppActive : Bool
  /-- How many blocks of `processRequestQueueAsync()` are scheduled. -/
  processBlocks : ℕ

/-- What may happen. -/
inductive GiphyEvent where
  | requestAsset (url : String) (priority : GiphyRequestPriority)
  | cancel (r : ℕ)
  | cancelAllRequests
  | setAppActive (isAppActive : Bool)
  | clearCache
  /-- The `HEAD` request ends, with the content length or without one. -/
  | sizeResponse (r : ℕ) (response : Option Int)
  /-- Data of a segment arrives. -/
  | didReceive (r i : ℕ) (data : List UInt8)
  /-- The task of a segment ends. -/
  | didComplete (r i : ℕ) (isSuccess : Bool)
  /-- The file is written, or not. -/
  | didWrite (r i : ℕ) (canWrite : Bool)
  /-- A block that processes the queue runs. -/
  | runProcess
  | runBlock (r : ℕ) (work : GiphyWork)

namespace GiphyDownloader

variable (downloader : GiphyDownloader)

/-- Before the first request. -/
def initial (isAppActive : Bool) : GiphyDownloader where
  requests _ := .new "" .low
  requestCount := 0
  assetRequestQueue := []
  assetMap := []
  isAppActive
  processBlocks := 0

def set (r : ℕ) (request : GiphyAssetRequest) : GiphyDownloader :=
  { downloader with requests := Function.update downloader.requests r request }

/-! ## The cache -/

/-- `updateCacheOrder(key:)` of the cache. -/
def touchAsset (url : String) : GiphyDownloader :=
  { downloader with assetMap := downloader.assetMap.filter (· ≠ url) ++ [url] }

/-- `maxSize` of the cache. -/
def maxAssetCount : ℕ := 100

/-- `set(key:value:)` of the cache. -/
def setAsset (url : String) : GiphyDownloader :=
  { downloader.touchAsset url with
    assetMap := (downloader.touchAsset url).assetMap.drop
      ((downloader.touchAsset url).assetMap.length - maxAssetCount) }

/-! ## The queue -/

def maxAssetRequestCount : ℕ := 3

def maxAssetRequestsPerAssetCount : ℕ := maxAssetRequestCount - 1

/-- The loop of `popNextAssetRequest()`, with the number of tasks that it has counted. -/
def popLoop (requests : ℕ → GiphyAssetRequest) : List ℕ → ℕ → Option ℕ
  | [], _ => none
  | r :: queue, activeAssetRequestsCount =>
      match (requests r).state with
      | .waiting => some r
      | .requestingSize =>
          -- Only so many tasks are under way at a time, over all requests.
          if activeAssetRequestsCount + 1 < maxAssetRequestCount then
            popLoop requests queue (activeAssetRequestsCount + 1)
          else none
      | .complete | .failed => popLoop requests queue activeAssetRequestsCount
      | .active =>
          if (requests r).downloadingSegmentsCount < maxAssetRequestsPerAssetCount then
            if activeAssetRequestsCount + (requests r).downloadingSegmentsCount <
                maxAssetRequestCount then
              if (requests r).firstWaitingSegment = none then
                popLoop requests queue
                  (activeAssetRequestsCount + (requests r).downloadingSegmentsCount)
              else some r
            else none
          else
            popLoop requests queue
              (activeAssetRequestsCount + (requests r).downloadingSegmentsCount)

/-- The queue as `popNextAssetRequest()` goes through it, "high" priority first. -/
def byPriority : List ℕ :=
  (downloader.assetRequestQueue.filter fun r => (downloader.requests r).priority = .high) ++
    downloader.assetRequestQueue.filter fun r => (downloader.requests r).priority = .low

def popNextAssetRequest : Option ℕ := popLoop downloader.requests downloader.byPriority 0

def removeAssetRequestFromQueue (r : ℕ) : GiphyDownloader :=
  if r ∈ downloader.assetRequestQueue then
    { downloader with
      assetRequestQueue := downloader.assetRequestQueue.filter (· ≠ r)
      processBlocks := downloader.processBlocks + 1 }
  else downloader

/-- `processRequestQueueSync()`, for so many turns at most. -/
def processLoop : ℕ → GiphyDownloader → Option GiphyDownloader
  | 0, _ => none
  | turns + 1, downloader =>
      match downloader.popNextAssetRequest with
      | none => some downloader
      | some r =>
          -- A cancelled request is discarded, which has the queue processed again.
          if (downloader.requests r).wasCancelled = true then
            some (downloader.removeAssetRequestFromQueue r)
          else if downloader.isAppActive = false then
            processLoop turns (downloader.set r (downloader.requests r).fail)
          -- The asset was downloaded while the request was queued.
          else if (downloader.requests r).url ∈ downloader.assetMap then
            some ((downloader.touchAsset (downloader.requests r).url).set r
              (downloader.requests r).completeFromCache)
          else if (downloader.requests r).state = .waiting then
            processLoop turns (downloader.set r (downloader.requests r).startSizeTask)
          else
            match (downloader.requests r).firstWaitingSegment with
            | none => some downloader
            | some i =>
                processLoop turns (downloader.set r ((downloader.requests r).startSegmentTask i))

end GiphyDownloader

/-- How many turns a request may still take. -/
def GiphyAssetRequest.turns (request : GiphyAssetRequest) : ℕ :=
  match request.state with
  | .waiting => 1
  | .active => request.segments.countP fun segment => segment.state = .waiting
  | .requestingSize | .complete | .failed => 0

namespace GiphyDownloader

variable (downloader : GiphyDownloader)

def turns : ℕ := (downloader.assetRequestQueue.map fun r => (downloader.requests r).turns).sum

def processRequestQueueSync : GiphyDownloader :=
  (processLoop (downloader.turns + 1) downloader).getD downloader

/-! ## What happens -/

/-- `requestAsset(rendition:priority:success:failure:)`. -/
def requestAsset (url : String) (priority : GiphyRequestPriority) : GiphyDownloader :=
  if url ∈ downloader.assetMap then
    -- A synchronous cache hit: the call is made at once, and there is no request.
    { (downloader.touchAsset url).set downloader.requestCount
        ((GiphyAssetRequest.new url priority).call .success) with
      requestCount := downloader.requestCount + 1 }
  else
    { downloader.set downloader.requestCount (.new url priority) with
      requestCount := downloader.requestCount + 1
      assetRequestQueue := downloader.assetRequestQueue ++ [downloader.requestCount]
      processBlocks := downloader.processBlocks + 1 }

def cancelAllRequests : GiphyDownloader :=
  { downloader with
    requests := fun r =>
      if r ∈ downloader.assetRequestQueue then (downloader.requests r).cancel
      else downloader.requests r
    assetRequestQueue := [] }

def runBlock (r : ℕ) : GiphyWork → Option GiphyDownloader
  | .setContentLength contentLength =>
      some (downloader.set r
        ((downloader.requests r).setContentLength contentLength)).processRequestQueueSync
  | .segmentSucceeded i =>
      if ((downloader.requests r).completeSegment i).areAllSegmentsComplete then
        some (downloader.set r (((downloader.requests r).completeSegment i).startFileWrite i))
      else
        some (downloader.set r ((downloader.requests r).completeSegment i)).processRequestQueueSync
  | .segmentFailed i => some (downloader.set r ((downloader.requests r).failSegment i))
  | .requestSucceeded =>
      some (((downloader.setAsset (downloader.requests r).url).removeAssetRequestFromQueue r).set r
        (((downloader.requests r).finish .requestSucceeded).call .success))
  | .requestFailed =>
      some ((downloader.removeAssetRequestFromQueue r).set r
        (((downloader.requests r).finish .requestFailed).call .failure))
  | .sizeTask | .segmentTask _ | .fileWrite _ => none

/-- One thing happens, if it may. -/
def step : GiphyEvent → Option GiphyDownloader
  | .requestAsset url priority => some (downloader.requestAsset url priority)
  | .cancel r =>
      if r < downloader.requestCount then
        some (downloader.set r (downloader.requests r).cancel)
      else none
  | .cancelAllRequests => some downloader.cancelAllRequests
  | .setAppActive isAppActive => some { downloader with isAppActive }
  | .clearCache => some { downloader with assetMap := [] }
  | .sizeResponse r response =>
      if .sizeTask ∈ (downloader.requests r).outstanding ∧ response.getD 0 < 2 ^ 63 then
        some (downloader.set r ((downloader.requests r).handleAssetSizeResponse response))
      else none
  | .didReceive r i data =>
      if .segmentTask i ∈ (downloader.requests r).outstanding then
        some (downloader.set r ((downloader.requests r).didReceive i data))
      else none
  | .didComplete r i isSuccess =>
      if .segmentTask i ∈ (downloader.requests r).outstanding then
        some (downloader.set r ((downloader.requests r).didComplete i isSuccess))
      else none
  | .didWrite r i canWrite =>
      if .fileWrite i ∈ (downloader.requests r).outstanding then
        some (downloader.set r ((downloader.requests r).didWrite i canWrite))
      else none
  | .runProcess =>
      if 0 < downloader.processBlocks then
        some ({ downloader with
          processBlocks := downloader.processBlocks - 1 } : GiphyDownloader).processRequestQueueSync
      else none
  | .runBlock r work =>
      if work ∈ (downloader.requests r).outstanding then downloader.runBlock r work
      else none

abbrev Run (downloader : GiphyDownloader) (events : List GiphyEvent)
    (downloader' : GiphyDownloader) : Prop :=
  LabelledRun (fun downloader event downloader' => downloader.step event = some downloader')
    downloader events downloader'

/-- No task, no writing of a file and no block is outstanding. -/
def IsQuiet : Prop :=
  downloader.processBlocks = 0 ∧ ∀ r, (downloader.requests r).outstanding = []

/-! ## The invariant -/

/-- The requests are consistent, those in the queue are tracked, and those that may still make
their call are in the queue. -/
structure Consistent : Prop where
  request : ∀ r, (downloader.requests r).Consistent
  tracked : ∀ r ∈ downloader.assetRequestQueue, (downloader.requests r).Tracked
  lt_requestCount : ∀ r ∈ downloader.assetRequestQueue, r < downloader.requestCount
  queued : ∀ r < downloader.requestCount, (downloader.requests r).hasCallbacks = true →
    r ∈ downloader.assetRequestQueue
  unused : ∀ r, downloader.requestCount ≤ r →
    (downloader.requests r).wasCancelled = false ∧ (downloader.requests r).outstanding = []

/-- While there is something to start, the queue is about to be processed, or there is something
outstanding for a request in it. -/
def IsAwake : Prop :=
  downloader.popNextAssetRequest ≠ none →
    0 < downloader.processBlocks ∨
      ∃ r ∈ downloader.assetRequestQueue, (downloader.requests r).outstanding ≠ []

/-- The cancelled requests make no call. -/
def KeepsCancelled (downloader downloader' : GiphyDownloader) : Prop :=
  ∀ r, (downloader.requests r).wasCancelled = true →
    (downloader'.requests r).wasCancelled = true ∧
      (downloader'.requests r).calls = (downloader.requests r).calls

variable {downloader} {downloader' : GiphyDownloader} {r : ℕ} {request : GiphyAssetRequest}
  {queue : List ℕ}

theorem requests_set {s : ℕ} :
    (downloader.set r request).requests s = if s = r then request else downloader.requests s :=
  Function.update_apply downloader.requests r request s

@[simp] theorem requests_set_self : (downloader.set r request).requests r = request := by
  rw [requests_set, if_pos rfl]

theorem KeepsCancelled.refl (downloader : GiphyDownloader) :
    downloader.KeepsCancelled downloader :=
  fun _ h => ⟨h, rfl⟩

theorem KeepsCancelled.trans {downloader'' : GiphyDownloader}
    (h : downloader.KeepsCancelled downloader') (h' : downloader'.KeepsCancelled downloader'') :
    downloader.KeepsCancelled downloader'' := by
  intro r hcancelled
  obtain ⟨hcancelled', hcalls⟩ := h r hcancelled
  obtain ⟨hcancelled'', hcalls'⟩ := h' r hcancelled'
  exact ⟨hcancelled'', hcalls'.trans hcalls⟩

/-- A request changes, and the others stay as they are. -/
theorem Consistent.set (h : downloader.Consistent) (hr : r < downloader.requestCount)
    (hrequest : request.Consistent)
    (htracked : r ∈ downloader.assetRequestQueue → request.Tracked)
    (hcallbacks : request.hasCallbacks = true →
      (downloader.requests r).hasCallbacks = true) :
    (downloader.set r request).Consistent := by
  constructor
  case request =>
    intro s
    rw [requests_set]
    split
    · exact hrequest
    · exact h.request s
  case tracked =>
    intro s hs
    rw [requests_set]
    split
    · rename_i heq
      exact htracked (heq ▸ hs)
    · exact h.tracked s hs
  case lt_requestCount =>
    exact h.lt_requestCount
  case queued =>
    intro s hs
    rw [requests_set]
    split
    · rename_i heq
      rw [heq]
      exact fun hcalled => h.queued r hr (hcallbacks hcalled)
    · exact h.queued s hs
  case unused =>
    intro s hs
    rw [requests_set, if_neg (Nat.ne_of_gt (Nat.lt_of_lt_of_le hr hs))]
    exact h.unused s hs

theorem Consistent.advance (h : downloader.Consistent) (hr : r < downloader.requestCount)
    (hadvances : (downloader.requests r).Advances request) :
    (downloader.set r request).Consistent :=
  h.set hr ((h.request r).advance hadvances)
    (fun hmem => hadvances.tracked (h.tracked r hmem))
    (fun hcallbacks => hadvances.hasCallbacks ▸ hcallbacks)

theorem keepsCancelled_advance (hadvances : (downloader.requests r).Advances request) :
    downloader.KeepsCancelled (downloader.set r request) := by
  intro s hs
  rw [requests_set]
  split
  · rename_i heq
    rw [heq] at hs ⊢
    exact ⟨hadvances.wasCancelled.trans hs, hadvances.calls⟩
  · exact ⟨hs, rfl⟩

theorem Consistent.lt_of_mem (h : downloader.Consistent) {work : GiphyWork}
    (hmem : work ∈ (downloader.requests r).outstanding) : r < downloader.requestCount := by
  by_contra hr
  rw [(h.unused r (Nat.le_of_not_lt hr)).2] at hmem
  exact absurd hmem List.not_mem_nil

/-! ## What comes first -/

structure SameTurn (request request' : GiphyAssetRequest) : Prop where
  priority : request'.priority = request.priority
  state : request'.state = request.state
  segments : request'.segments = request.segments

theorem popLoop_congr {requests requests' : ℕ → GiphyAssetRequest} {count : ℕ}
    (h : ∀ r ∈ queue, SameTurn (requests r) (requests' r)) :
    popLoop requests' queue count = popLoop requests queue count := by
  induction queue generalizing count with
  | nil => rfl
  | cons r queue ih =>
      rw [List.forall_mem_cons] at h
      have hcount : (requests' r).downloadingSegmentsCount =
          (requests r).downloadingSegmentsCount := by
        rw [GiphyAssetRequest.downloadingSegmentsCount, h.1.segments]
        rfl
      have hfirst : (requests' r).firstWaitingSegment = (requests r).firstWaitingSegment := by
        rw [GiphyAssetRequest.firstWaitingSegment, h.1.segments]
        rfl
      rw [popLoop, popLoop, h.1.state, hcount, hfirst]
      simp only [ih h.2]

theorem mem_byPriority : r ∈ downloader.byPriority ↔ r ∈ downloader.assetRequestQueue := by
  rw [byPriority, List.mem_append, List.mem_filter, List.mem_filter]
  cases (downloader.requests r).priority <;> simp

theorem popNextAssetRequest_congr
    (hqueue : downloader'.assetRequestQueue = downloader.assetRequestQueue)
    (h : ∀ r ∈ downloader.assetRequestQueue,
      SameTurn (downloader.requests r) (downloader'.requests r)) :
    downloader'.popNextAssetRequest = downloader.popNextAssetRequest := by
  have hfilter : ∀ priority : GiphyRequestPriority,
      (downloader'.assetRequestQueue.filter fun r =>
          (downloader'.requests r).priority = priority) =
        downloader.assetRequestQueue.filter fun r =>
          (downloader.requests r).priority = priority := by
    intro priority
    rw [hqueue]
    refine List.filter_congr fun r hr => ?_
    rw [(h r hr).priority]
  have hbyPriority : downloader'.byPriority = downloader.byPriority := by
    rw [byPriority, byPriority, hfilter, hfilter]
  rw [popNextAssetRequest, popNextAssetRequest, hbyPriority]
  exact popLoop_congr fun r hr => h r (mem_byPriority.mp hr)

/-- What comes first waits, or has a segment that does. -/
theorem popLoop_eq_some {requests : ℕ → GiphyAssetRequest} {count : ℕ}
    (h : popLoop requests queue count = some r) :
    r ∈ queue ∧ ((requests r).state = .waiting ∨
      (requests r).state = .active ∧ (requests r).firstWaitingSegment ≠ none) := by
  induction queue generalizing count with
  | nil => cases h
  | cons first queue ih =>
      rw [popLoop] at h
      have hrest : ∀ {count}, popLoop requests queue count = some r →
          r ∈ first :: queue ∧ ((requests r).state = .waiting ∨
            (requests r).state = .active ∧ (requests r).firstWaitingSegment ≠ none) :=
        fun hpop => ⟨List.mem_cons_of_mem first (ih hpop).1, (ih hpop).2⟩
      cases hstate : (requests first).state with
      | waiting =>
          rw [hstate] at h
          cases h
          exact ⟨List.mem_cons_self, Or.inl hstate⟩
      | requestingSize =>
          rw [hstate] at h
          dsimp only at h
          split at h
          · exact hrest h
          · cases h
      | complete | failed =>
          rw [hstate] at h
          exact hrest h
      | active =>
          rw [hstate] at h
          dsimp only at h
          split at h
          · split at h
            · split at h
              · exact hrest h
              · rename_i hfirst
                cases h
                exact ⟨List.mem_cons_self, Or.inr ⟨hstate, hfirst⟩⟩
            · cases h
          · exact hrest h

/-- Where all could be started, something is. -/
theorem popLoop_ne_none {requests : ℕ → GiphyAssetRequest} (hne : queue ≠ [])
    (h : ∀ r ∈ queue, (requests r).IsStartable) : popLoop requests queue 0 ≠ none := by
  cases queue with
  | nil => exact absurd rfl hne
  | cons r queue =>
      rw [popLoop]
      obtain hwaiting | ⟨hactive, hcount, hfirst⟩ := h r List.mem_cons_self
      · rw [hwaiting]
        exact Option.some_ne_none r
      · have hper : 0 < maxAssetRequestsPerAssetCount := by decide
        have htotal : 0 < maxAssetRequestCount := by decide
        rw [hactive, hcount]
        dsimp only
        rw [if_pos hper, if_pos htotal, if_neg hfirst]
        exact Option.some_ne_none r

/-! ## What keeps the queue awake -/

/-- A request in the queue has something outstanding after it has changed. -/
theorem IsAwake.set (h : downloader.IsAwake)
    (hbusy : r ∈ downloader.assetRequestQueue → request.outstanding ≠ []) :
    (downloader.set r request).IsAwake := by
  intro hpop
  by_cases hr : r ∈ downloader.assetRequestQueue
  · exact Or.inr ⟨r, hr, by rw [requests_set_self]; exact hbusy hr⟩
  · have hother : ∀ s ∈ downloader.assetRequestQueue,
        (downloader.set r request).requests s = downloader.requests s := by
      intro s hs
      rw [requests_set, if_neg]
      rintro rfl
      exact hr hs
    have hsame : (downloader.set r request).popNextAssetRequest =
        downloader.popNextAssetRequest := by
      refine popNextAssetRequest_congr rfl fun s hs => ?_
      rw [hother s hs]
      exact ⟨rfl, rfl, rfl⟩
    rw [hsame] at hpop
    obtain hprocess | ⟨s, hs, hbusy'⟩ := h hpop
    · exact Or.inl hprocess
    · exact Or.inr ⟨s, hs, by rw [hother s hs]; exact hbusy'⟩

theorem mem_removeAssetRequestFromQueue {s : ℕ} :
    s ∈ (downloader.removeAssetRequestFromQueue r).assetRequestQueue ↔
      s ∈ downloader.assetRequestQueue ∧ s ≠ r := by
  rw [removeAssetRequestFromQueue]
  split
  · simp [List.mem_filter]
  · rename_i hr
    constructor
    · intro hs
      refine ⟨hs, ?_⟩
      rintro rfl
      exact hr hs
    · exact fun hs => hs.1

@[simp] theorem requests_removeAssetRequestFromQueue :
    (downloader.removeAssetRequestFromQueue r).requests = downloader.requests := by
  rw [removeAssetRequestFromQueue]
  split <;> rfl

@[simp] theorem requestCount_removeAssetRequestFromQueue :
    (downloader.removeAssetRequestFromQueue r).requestCount = downloader.requestCount := by
  rw [removeAssetRequestFromQueue]
  split <;> rfl

theorem Consistent.remove (h : downloader.Consistent) (hr : r < downloader.requestCount)
    (hrequest : request.Consistent) (hcallbacks : request.hasCallbacks = false) :
    ((downloader.removeAssetRequestFromQueue r).set r request).Consistent := by
  have hrequests : ∀ s, ((downloader.removeAssetRequestFromQueue r).set r request).requests s =
      if s = r then request else downloader.requests s := by
    intro s
    rw [requests_set, requests_removeAssetRequestFromQueue]
  have hqueue : ∀ s,
      s ∈ ((downloader.removeAssetRequestFromQueue r).set r request).assetRequestQueue ↔
        s ∈ downloader.assetRequestQueue ∧ s ≠ r :=
    fun _ => mem_removeAssetRequestFromQueue
  have hcount : ((downloader.removeAssetRequestFromQueue r).set r request).requestCount =
      downloader.requestCount := requestCount_removeAssetRequestFromQueue
  constructor
  case request =>
    intro s
    rw [hrequests]
    split
    · exact hrequest
    · exact h.request s
  case tracked =>
    intro s hs
    obtain ⟨hmem, hne⟩ := (hqueue s).mp hs
    rw [hrequests, if_neg hne]
    exact h.tracked s hmem
  case lt_requestCount =>
    intro s hs
    rw [hcount]
    exact h.lt_requestCount s ((hqueue s).mp hs).1
  case queued =>
    intro s hs
    rw [hrequests, hqueue]
    rw [hcount] at hs
    split
    · intro hcalled
      cases hcalled.symm.trans hcallbacks
    · rename_i hne
      exact fun hcalled => ⟨h.queued s hs hcalled, hne⟩
  case unused =>
    intro s hs
    rw [hcount] at hs
    rw [hrequests, if_neg (Nat.ne_of_gt (Nat.lt_of_lt_of_le hr hs))]
    exact h.unused s hs

/-- When it is taken out, the queue is about to be processed. -/
theorem IsAwake.remove (h : downloader.IsAwake) :
    ((downloader.removeAssetRequestFromQueue r).set r request).IsAwake := by
  by_cases hr : r ∈ downloader.assetRequestQueue
  · intro _
    refine Or.inl ?_
    show 0 < (downloader.removeAssetRequestFromQueue r).processBlocks
    rw [removeAssetRequestFromQueue, if_pos hr]
    exact Nat.succ_pos _
  · rw [removeAssetRequestFromQueue, if_neg hr]
    exact h.set fun hmem => absurd hmem hr

theorem set_requests_self : downloader.set r (downloader.requests r) = downloader := by
  rw [set, Function.update_eq_self]

/-! ## Processing the queue -/

theorem countP_modify_lt {α : Type} {p : α → Bool} {f : α → α} {list : List α} {i : ℕ} {a : α}
    (h : list[i]? = some a) (ha : p a = true) (hf : p (f a) = false) :
    (list.modify i f).countP p < list.countP p := by
  induction list generalizing i with
  | nil => cases h
  | cons first list ih =>
      cases i with
      | zero =>
          cases h
          rw [List.modify_zero_cons, List.countP_cons_of_pos ha,
            List.countP_cons_of_neg (by simp [hf])]
          exact Nat.lt_succ_self _
      | succ i =>
          rw [List.modify_succ_cons, List.countP_cons, List.countP_cons]
          have hlt := ih h
          omega

theorem turns_startSegmentTask {i : ℕ} (hactive : request.state = .active)
    (hfirst : request.firstWaitingSegment = some i) :
    (request.startSegmentTask i).turns < request.turns := by
  obtain ⟨segment, hsegment, hwaiting⟩ := Option.map_eq_some_iff.mp
    (GiphyAssetRequest.segmentState_of_firstWaitingSegment hfirst)
  have hactive' : (request.startSegmentTask i).state = .active := hactive
  rw [GiphyAssetRequest.turns, GiphyAssetRequest.turns, hactive, hactive']
  refine countP_modify_lt hsegment (decide_eq_true hwaiting) ?_
  rw [SegmentEvent.state_handle, hwaiting]
  decide

theorem turns_pos (h : request.state = .waiting ∨
    request.state = .active ∧ request.firstWaitingSegment ≠ none) : 0 < request.turns := by
  obtain hwaiting | ⟨hactive, hfirst⟩ := h
  · rw [GiphyAssetRequest.turns, hwaiting]
    exact Nat.zero_lt_one
  · obtain ⟨i, hi⟩ := Option.ne_none_iff_exists'.mp hfirst
    exact Nat.lt_of_le_of_lt (Nat.zero_le _) (turns_startSegmentTask hactive hi)

theorem turns_set_lt (hr : r ∈ downloader.assetRequestQueue)
    (hlt : request.turns < (downloader.requests r).turns) :
    (downloader.set r request).turns < downloader.turns := by
  apply List.sum_lt_sum
  · intro s hs
    rw [requests_set]
    split
    · rename_i heq
      rw [heq]
      exact Nat.le_of_lt hlt
    · exact Nat.le_refl _
  · exact ⟨r, hr, by rw [requests_set_self]; exact hlt⟩

section

variable (h : downloader.Consistent)
include h

theorem Consistent.noSizeWork_of_turn (hturn : (downloader.requests r).state = .waiting ∨
      (downloader.requests r).state = .active ∧
        (downloader.requests r).firstWaitingSegment ≠ none) :
    (downloader.requests r).NoSizeWork := by
  refine (h.request r).atStage.noSizeWork fun hstate => ?_
  obtain hwaiting | ⟨hactive, -⟩ := hturn
  · cases hstate.symm.trans hwaiting
  · cases hstate.symm.trans hactive

theorem removeCancelled_spec (hqueue : r ∈ downloader.assetRequestQueue)
    (hcancelled : (downloader.requests r).wasCancelled = true) :
    (downloader.removeAssetRequestFromQueue r).Consistent ∧
      (downloader.removeAssetRequestFromQueue r).IsAwake ∧
      downloader.KeepsCancelled (downloader.removeAssetRequestFromQueue r) := by
  have hcallbacks : (downloader.requests r).hasCallbacks = false := by
    cases hcase : (downloader.requests r).hasCallbacks with
    | false => rfl
    | true => cases ((h.request r).hasCallbacks hcase).2.symm.trans hcancelled
  have hremove := h.remove (h.lt_requestCount r hqueue) (h.request r) hcallbacks
  have hself : (downloader.removeAssetRequestFromQueue r).set r (downloader.requests r) =
      downloader.removeAssetRequestFromQueue r := by
    conv_lhs => rw [← @requests_removeAssetRequestFromQueue downloader r]
    exact set_requests_self
  rw [hself] at hremove
  refine ⟨hremove, fun _ => Or.inl ?_, fun s hs => ?_⟩
  · rw [removeAssetRequestFromQueue, if_pos hqueue]
    exact Nat.succ_pos _
  · rw [requests_removeAssetRequestFromQueue]
    exact ⟨hs, rfl⟩

theorem completeFromCache_spec (hqueue : r ∈ downloader.assetRequestQueue)
    (hnone : (downloader.requests r).NoSizeWork) :
    ((downloader.touchAsset (downloader.requests r).url).set r
        (downloader.requests r).completeFromCache).Consistent ∧
      ((downloader.touchAsset (downloader.requests r).url).set r
        (downloader.requests r).completeFromCache).IsAwake ∧
      downloader.KeepsCancelled ((downloader.touchAsset (downloader.requests r).url).set r
        (downloader.requests r).completeFromCache) := by
  have hadvances := GiphyAssetRequest.advances_completeFromCache hnone
  have hset := h.advance (h.lt_requestCount r hqueue) hadvances
  refine ⟨⟨hset.1, hset.2, hset.3, hset.4, hset.5⟩, fun _ => Or.inr ⟨r, hqueue, ?_⟩,
    keepsCancelled_advance hadvances⟩
  rw [requests_set_self]
  exact List.append_ne_nil_of_right_ne_nil _ (List.cons_ne_nil _ _)

/-- **Processing the queue comes to an end**, and leaves it awake. -/
theorem processLoop_eq {turns : ℕ} (hturns : downloader.turns < turns) :
    ∃ downloader', processLoop turns downloader = some downloader' ∧
      downloader'.Consistent ∧ downloader'.IsAwake ∧ downloader.KeepsCancelled downloader' := by
  induction turns generalizing downloader with
  | zero => exact absurd hturns (Nat.not_lt_zero _)
  | succ turns ih =>
      rw [processLoop]
      cases hpop : downloader.popNextAssetRequest with
      | none =>
          exact ⟨downloader, rfl, h, fun hne => absurd hpop hne, KeepsCancelled.refl downloader⟩
      | some r =>
          obtain ⟨hmem, hturn⟩ := popLoop_eq_some hpop
          have hqueue := mem_byPriority.mp hmem
          have hstage := (h.request r).atStage
          have hnone := h.noSizeWork_of_turn hturn
          -- The request advances, and the rest of the queue is processed.
          have hnext : ∀ {request}, (downloader.requests r).Advances request →
              request.turns < (downloader.requests r).turns →
              ∃ downloader', processLoop turns (downloader.set r request) = some downloader' ∧
                downloader'.Consistent ∧ downloader'.IsAwake ∧
                  downloader.KeepsCancelled downloader' := by
            intro request hadvances hlt
            have hfewer := turns_set_lt hqueue hlt
            obtain ⟨downloader', hloop, hconsistent, hawake, hkeeps⟩ :=
              ih (h.advance (h.lt_requestCount r hqueue) hadvances) (by omega)
            exact ⟨downloader', hloop, hconsistent, hawake,
              (keepsCancelled_advance hadvances).trans hkeeps⟩
          -- One case for each way on in the loop: it ends where the request has been cancelled
          -- or is in the cache, and goes on where the request fails, or its next task starts.
          dsimp only
          split
          · rename_i hcancelled
            exact ⟨_, rfl, removeCancelled_spec h hqueue hcancelled⟩
          · split
            · exact hnext (GiphyAssetRequest.advances_fail hnone) (turns_pos hturn)
            · split
              · exact ⟨_, rfl, completeFromCache_spec h hqueue hnone⟩
              · split
                · rename_i hwaiting
                  exact hnext (GiphyAssetRequest.advances_startSizeTask hstage hwaiting)
                    (turns_pos hturn)
                · rename_i hnotWaiting
                  obtain hwaiting | ⟨hactive, hfirst⟩ := hturn
                  · exact absurd hwaiting hnotWaiting
                  · obtain ⟨i, hi⟩ := Option.ne_none_iff_exists'.mp hfirst
                    rw [hi]
                    exact hnext (GiphyAssetRequest.advances_startSegmentTask hstage hactive hi)
                      (turns_startSegmentTask hactive hi)

theorem processRequestQueueSync_spec :
    downloader.processRequestQueueSync.Consistent ∧ downloader.processRequestQueueSync.IsAwake ∧
      downloader.KeepsCancelled downloader.processRequestQueueSync := by
  obtain ⟨downloader', hloop, hspec⟩ := processLoop_eq h (Nat.lt_succ_self downloader.turns)
  rw [processRequestQueueSync, hloop]
  exact hspec

end

/-! ## What each event keeps -/

/-- All that is kept by what happens. -/
def Keeps (downloader downloader' : GiphyDownloader) : Prop :=
  downloader'.Consistent ∧ downloader'.IsAwake ∧ downloader.KeepsCancelled downloader'

/-- A request advances and has something outstanding. -/
theorem keeps_advance (h : downloader.Consistent) (hawake : downloader.IsAwake)
    (hr : r < downloader.requestCount) (hadvances : (downloader.requests r).Advances request)
    (hbusy : request.outstanding ≠ []) : downloader.Keeps (downloader.set r request) :=
  ⟨h.advance hr hadvances, hawake.set fun _ => hbusy, keepsCancelled_advance hadvances⟩

theorem keeps_processRequestQueueSync (h : downloader.Consistent)
    (hr : r < downloader.requestCount) (hadvances : (downloader.requests r).Advances request) :
    downloader.Keeps (downloader.set r request).processRequestQueueSync := by
  obtain ⟨hconsistent, hawake, hkeeps⟩ := processRequestQueueSync_spec (h.advance hr hadvances)
  exact ⟨hconsistent, hawake, (keepsCancelled_advance hadvances).trans hkeeps⟩

theorem keeps_call {work : GiphyWork} {callback : GiphyCallback} (h : downloader.Consistent)
    (hawake : downloader.IsAwake) (hmem : work ∈ (downloader.requests r).outstanding)
    (hwork : work.isLater = true) :
    downloader.Keeps ((downloader.removeAssetRequestFromQueue r).set r
      (((downloader.requests r).finish work).call callback)) := by
  have hcallbacks : (((downloader.requests r).finish work).call callback).hasCallbacks = false := by
    rw [GiphyAssetRequest.call]
    split
    · rfl
    · rename_i hcase
      exact Bool.not_eq_true _ ▸ hcase
  refine ⟨h.remove (h.lt_of_mem hmem) ((h.request r).call hmem hwork) hcallbacks,
    hawake.remove, ?_⟩
  intro s hs
  rw [requests_set, requests_removeAssetRequestFromQueue]
  split
  · rename_i heq
    rw [heq] at hs ⊢
    have hcleared : ((downloader.requests r).finish work).hasCallbacks = false := by
      cases hcase : (downloader.requests r).hasCallbacks with
      | false => exact hcase
      | true => cases ((h.request r).hasCallbacks hcase).2.symm.trans hs
    rw [GiphyAssetRequest.call, hcleared]
    exact ⟨hs, rfl⟩
  · exact ⟨hs, rfl⟩

section

variable (h : downloader.Consistent)
include h

theorem Consistent.add (hrequest : request.Consistent) (htracked : request.Tracked)
    {assetMap : List String} {processBlocks : ℕ}
    (hqueue : ∀ s ∈ queue, s ∈ downloader.assetRequestQueue ∨ s = downloader.requestCount)
    (hmono : ∀ s ∈ downloader.assetRequestQueue, s ∈ queue)
    (hcallbacks : request.hasCallbacks = true → downloader.requestCount ∈ queue) :
    ({ downloader.set downloader.requestCount request with
      requestCount := downloader.requestCount + 1
      assetRequestQueue := queue
      assetMap
      processBlocks } : GiphyDownloader).Consistent := by
  constructor
  case request =>
    intro s
    show ((downloader.set downloader.requestCount request).requests s).Consistent
    rw [requests_set]
    split
    · exact hrequest
    · exact h.request s
  case tracked =>
    intro s hs
    show ((downloader.set downloader.requestCount request).requests s).Tracked
    rw [requests_set]
    split
    · exact htracked
    · rename_i hne
      obtain hmem | heq := hqueue s hs
      · exact h.tracked s hmem
      · exact absurd heq hne
  case lt_requestCount =>
    intro s hs
    obtain hmem | heq := hqueue s hs
    · exact Nat.lt_succ_of_lt (h.lt_requestCount s hmem)
    · exact Nat.lt_succ_of_le (Nat.le_of_eq heq)
  case queued =>
    intro s hs
    show ((downloader.set downloader.requestCount request).requests s).hasCallbacks = true → _
    rw [requests_set]
    split
    · rename_i heq
      exact fun hcalled => heq ▸ hcallbacks hcalled
    · rename_i hne
      have hlt : s < downloader.requestCount :=
        Nat.lt_of_le_of_ne (Nat.le_of_lt_succ hs) hne
      exact fun hcalled => hmono s (h.queued s hlt hcalled)
  case unused =>
    intro s hs
    show ((downloader.set downloader.requestCount request).requests s).wasCancelled = false ∧ _
    have hne : s ≠ downloader.requestCount := Nat.ne_of_gt hs
    rw [requests_set, if_neg hne]
    exact h.unused s (Nat.le_of_lt hs)

theorem keepsCancelled_add :
    downloader.KeepsCancelled (downloader.set downloader.requestCount request) := by
  intro s hs
  rw [requests_set]
  split
  · rename_i heq
    rw [heq] at hs
    cases (h.unused _ (Nat.le_refl _)).1.symm.trans hs
  · exact ⟨hs, rfl⟩

theorem keeps_requestAsset {url : String} {priority : GiphyRequestPriority}
    (hawake : downloader.IsAwake) : downloader.Keeps (downloader.requestAsset url priority) := by
  rw [requestAsset]
  split
  · have hrequest : ((GiphyAssetRequest.new url priority).call .success).Consistent :=
      ⟨Nat.le_refl _, fun hcalled => (by cases hcalled), fun _ => Or.inr rfl, ⟨rfl, rfl⟩⟩
    -- A hit in the cache makes its call at once, and the new request is not in the queue.
    have hnot : downloader.requestCount ∉ downloader.assetRequestQueue :=
      fun hmem => Nat.lt_irrefl _ (h.lt_requestCount _ hmem)
    refine ⟨h.add hrequest trivial (fun _ hs => Or.inl hs) (fun _ hs => hs)
      (fun hcalled => by cases hcalled), ?_, keepsCancelled_add h⟩
    exact @IsAwake.set _ _ ((GiphyAssetRequest.new url priority).call .success) hawake
      fun hmem => absurd hmem hnot
  · refine ⟨h.add (GiphyAssetRequest.consistent_new url priority) trivial ?_ ?_ ?_,
      fun _ => Or.inl (Nat.succ_pos _), keepsCancelled_add h⟩
    · intro s hs
      obtain hmem | hmem := List.mem_append.mp hs
      · exact Or.inl hmem
      · exact Or.inr (List.mem_singleton.mp hmem)
    · exact fun _ hs => List.mem_append_left _ hs
    · exact fun _ => List.mem_append_right _ (List.mem_singleton_self _)

theorem keeps_cancel (hawake : downloader.IsAwake) (hr : r < downloader.requestCount) :
    downloader.Keeps (downloader.set r (downloader.requests r).cancel) := by
  have hrequests : ∀ s, SameTurn (downloader.requests s)
      ((downloader.set r (downloader.requests r).cancel).requests s) ∧
      ((downloader.set r (downloader.requests r).cancel).requests s).outstanding =
        (downloader.requests s).outstanding := by
    intro s
    rw [requests_set]
    split
    · rename_i heq
      rw [heq]
      exact ⟨⟨rfl, rfl, rfl⟩, rfl⟩
    · exact ⟨⟨rfl, rfl, rfl⟩, rfl⟩
  refine ⟨h.set hr (h.request r).cancel (h.tracked r) (fun hcalled => by cases hcalled), ?_, ?_⟩
  · intro hpop
    have hsame : (downloader.set r (downloader.requests r).cancel).popNextAssetRequest =
        downloader.popNextAssetRequest :=
      popNextAssetRequest_congr rfl fun s _ => (hrequests s).1
    rw [hsame] at hpop
    obtain hprocess | ⟨s, hs, hbusy⟩ := hawake hpop
    · exact Or.inl hprocess
    · exact Or.inr ⟨s, hs, by rw [(hrequests s).2]; exact hbusy⟩
  · intro s hs
    rw [requests_set]
    split
    · rename_i heq
      rw [heq]
      exact ⟨rfl, rfl⟩
    · exact ⟨hs, rfl⟩

theorem keeps_cancelAllRequests : downloader.Keeps downloader.cancelAllRequests := by
  have hrequests : ∀ s, downloader.cancelAllRequests.requests s =
      if s ∈ downloader.assetRequestQueue then (downloader.requests s).cancel
      else downloader.requests s := fun _ => rfl
  refine ⟨⟨?_, ?_, ?_, ?_, ?_⟩, fun hpop => absurd rfl hpop, ?_⟩
  · intro s
    rw [hrequests]
    split
    · exact (h.request s).cancel
    · exact h.request s
  · exact fun s hs => absurd hs List.not_mem_nil
  · exact fun s hs => absurd hs List.not_mem_nil
  · intro s hs
    rw [hrequests]
    split
    · intro hcalled
      cases hcalled
    · rename_i hnot
      exact fun hcalled => absurd (h.queued s hs hcalled) hnot
  · intro s hs
    rw [hrequests, if_neg]
    · exact h.unused s hs
    · exact fun hmem => Nat.not_lt.mpr hs (h.lt_requestCount s hmem)
  · intro s hs
    rw [hrequests]
    split
    · exact ⟨rfl, rfl⟩
    · exact ⟨hs, rfl⟩

theorem keeps_runBlock {work : GiphyWork} (hawake : downloader.IsAwake)
    (hmem : work ∈ (downloader.requests r).outstanding)
    (hstep : downloader.runBlock r work = some downloader') : downloader.Keeps downloader' := by
  have hr := h.lt_of_mem hmem
  have hstage := (h.request r).atStage
  cases work with
  | setContentLength contentLength =>
      cases hstep
      exact keeps_processRequestQueueSync h hr
        (GiphyAssetRequest.advances_setContentLength hstage hmem)
  | segmentSucceeded i =>
      rw [runBlock] at hstep
      split at hstep
      · cases hstep
        exact keeps_advance h hawake hr (GiphyAssetRequest.advances_startFileWrite hstage hmem)
          (List.ne_nil_of_mem GiphyAssetRequest.mem_start)
      · rename_i hmore
        cases hstep
        exact keeps_processRequestQueueSync h hr
          (GiphyAssetRequest.advances_completeSegment hstage hmem (Bool.not_eq_true _ ▸ hmore))
  | segmentFailed i =>
      cases hstep
      exact keeps_advance h hawake hr (GiphyAssetRequest.advances_failSegment hstage hmem)
        (List.ne_nil_of_mem GiphyAssetRequest.mem_start)
  | requestSucceeded =>
      cases hstep
      exact @keeps_call (downloader.setAsset (downloader.requests r).url) r _ .success
        ⟨h.1, h.2, h.3, h.4, h.5⟩ hawake hmem rfl
  | requestFailed =>
      cases hstep
      exact keeps_call h hawake hmem rfl
  | sizeTask | segmentTask i | fileWrite i => cases hstep

end

theorem outstanding_handleAssetSizeResponse {response : Option Int} :
    (request.handleAssetSizeResponse response).outstanding ≠ [] := by
  cases response with
  | none => exact List.ne_nil_of_mem GiphyAssetRequest.mem_start
  | some contentLength =>
      rw [GiphyAssetRequest.handleAssetSizeResponse]
      split
      · exact List.ne_nil_of_mem GiphyAssetRequest.mem_start
      · exact List.ne_nil_of_mem GiphyAssetRequest.mem_start

theorem outstanding_didReceive {i : ℕ} {data : List UInt8}
    (hmem : .segmentTask i ∈ request.outstanding) :
    (request.didReceive i data).outstanding ≠ [] := by
  rw [GiphyAssetRequest.didReceive]
  split
  · exact List.ne_nil_of_mem GiphyAssetRequest.mem_start
  · exact List.ne_nil_of_mem hmem

theorem outstanding_didComplete {i : ℕ} {isSuccess : Bool} :
    (request.didComplete i isSuccess).outstanding ≠ [] := by
  rw [GiphyAssetRequest.didComplete]
  split
  · exact List.ne_nil_of_mem GiphyAssetRequest.mem_start
  · exact List.ne_nil_of_mem GiphyAssetRequest.mem_start

theorem outstanding_didWrite {i : ℕ} {canWrite : Bool} :
    (request.didWrite i canWrite).outstanding ≠ [] := by
  rw [GiphyAssetRequest.didWrite]
  split
  · exact List.ne_nil_of_mem GiphyAssetRequest.mem_start
  · exact List.ne_nil_of_mem GiphyAssetRequest.mem_start

/-- **What every step keeps.** -/
theorem keeps_step {event : GiphyEvent} (h : downloader.Consistent) (hawake : downloader.IsAwake)
    (hstep : downloader.step event = some downloader') : downloader.Keeps downloader' := by
  cases event with
  | requestAsset url priority =>
      cases hstep
      exact keeps_requestAsset h hawake
  | cancel r =>
      rw [step] at hstep
      obtain ⟨hr, heq⟩ := Option.ite_none_right_eq_some.mp hstep
      cases heq
      exact keeps_cancel h hawake hr
  | cancelAllRequests =>
      cases hstep
      exact keeps_cancelAllRequests h
  | setAppActive isAppActive | clearCache =>
      cases hstep
      exact ⟨⟨h.1, h.2, h.3, h.4, h.5⟩, hawake, KeepsCancelled.refl downloader⟩
  | sizeResponse r response =>
      rw [step] at hstep
      obtain ⟨⟨hmem, hmax⟩, heq⟩ := Option.ite_none_right_eq_some.mp hstep
      cases heq
      have hmax' : ∀ contentLength, response = some contentLength → contentLength < 2 ^ 63 := by
        rintro contentLength rfl
        exact hmax
      exact keeps_advance h hawake (h.lt_of_mem hmem)
        (GiphyAssetRequest.advances_handleAssetSizeResponse (h.request r).atStage hmem hmax')
        outstanding_handleAssetSizeResponse
  | didReceive r i data =>
      rw [step] at hstep
      obtain ⟨hmem, heq⟩ := Option.ite_none_right_eq_some.mp hstep
      cases heq
      exact keeps_advance h hawake (h.lt_of_mem hmem)
        (GiphyAssetRequest.advances_didReceive (h.request r).atStage hmem)
        (outstanding_didReceive hmem)
  | didComplete r i isSuccess =>
      rw [step] at hstep
      obtain ⟨hmem, heq⟩ := Option.ite_none_right_eq_some.mp hstep
      cases heq
      exact keeps_advance h hawake (h.lt_of_mem hmem)
        (GiphyAssetRequest.advances_didComplete (h.request r).atStage hmem)
        outstanding_didComplete
  | didWrite r i canWrite =>
      rw [step] at hstep
      obtain ⟨hmem, heq⟩ := Option.ite_none_right_eq_some.mp hstep
      cases heq
      exact keeps_advance h hawake (h.lt_of_mem hmem)
        (GiphyAssetRequest.advances_didWrite (h.request r).atStage hmem)
        outstanding_didWrite
  | runProcess =>
      rw [step] at hstep
      obtain ⟨-, heq⟩ := Option.ite_none_right_eq_some.mp hstep
      cases heq
      -- The invariant is not about the block that has been taken off the main queue.
      have hconsistent : ({ downloader with
          processBlocks := downloader.processBlocks - 1 } : GiphyDownloader).Consistent :=
        ⟨h.1, h.2, h.3, h.4, h.5⟩
      exact processRequestQueueSync_spec hconsistent
  | runBlock r work =>
      rw [step] at hstep
      obtain ⟨hmem, heq⟩ := Option.ite_none_right_eq_some.mp hstep
      exact keeps_runBlock h hawake hmem heq

/-! ## Runs -/

variable {events : List GiphyEvent} {isAppActive : Bool}

theorem consistent_initial : (initial isAppActive).Consistent :=
  ⟨fun _ => GiphyAssetRequest.consistent_new "" .low,
    fun _ hr => absurd hr List.not_mem_nil, fun _ hr => absurd hr List.not_mem_nil,
    fun r hr => absurd hr (Nat.not_lt_zero r), fun _ _ => ⟨rfl, rfl⟩⟩

theorem keeps_run (h : downloader.Consistent) (hawake : downloader.IsAwake)
    (run : downloader.Run events downloader') : downloader.Keeps downloader' := by
  induction run with
  | refl => exact ⟨h, hawake, KeepsCancelled.refl downloader⟩
  | tail run last ih =>
      obtain ⟨hconsistent, hawake', hkeeps⟩ := ih
      obtain ⟨hconsistent', hawake'', hkeeps'⟩ := keeps_step hconsistent hawake' last
      exact ⟨hconsistent', hawake'', hkeeps.trans hkeeps'⟩

/-- **With nothing outstanding, the queue is empty.** -/
theorem queue_eq_nil (h : downloader.Consistent) (hawake : downloader.IsAwake)
    (hquiet : downloader.IsQuiet) : downloader.assetRequestQueue = [] := by
  by_contra hne
  have hstartable : ∀ r ∈ downloader.byPriority, (downloader.requests r).IsStartable :=
    fun r hr => (h.tracked r (mem_byPriority.mp hr)).startable (h.request r).atStage (hquiet.2 r)
  have hbyPriority : downloader.byPriority ≠ [] := by
    obtain ⟨r, hr⟩ := List.exists_mem_of_ne_nil _ hne
    exact List.ne_nil_of_mem (mem_byPriority.mpr hr)
  obtain hprocess | ⟨r, -, hbusy⟩ := hawake (popLoop_ne_none hbyPriority hstartable)
  · exact absurd hquiet.1 (Nat.ne_of_gt hprocess)
  · exact hbusy (hquiet.2 r)

end GiphyDownloader

open GiphyDownloader in
/-- **GIF requests complete once, and the queue does not stall.** -/
theorem completesOnce {isAppActive : Bool} {events : List GiphyEvent} {downloader : GiphyDownloader}
    (run : (initial isAppActive).Run events downloader) :
    (∀ r, (downloader.requests r).calls.length ≤ 1) ∧
      (∀ r later downloader', (downloader.requests r).wasCancelled = true →
        downloader.Run later downloader' →
        (downloader'.requests r).calls = (downloader.requests r).calls) ∧
      (downloader.IsQuiet →
        downloader.assetRequestQueue = [] ∧
          ∀ r < downloader.requestCount, (downloader.requests r).wasCancelled = false →
            (downloader.requests r).calls.length = 1) := by
  obtain ⟨h, hawake, -⟩ := keeps_run consistent_initial (fun hpop => absurd rfl hpop) run
  refine ⟨fun r => (h.request r).calls_le, ?_, fun hquiet => ?_⟩
  · intro r later downloader' hcancelled run'
    exact ((keeps_run h hawake run').2.2 r hcancelled).2
  · have hqueue := queue_eq_nil h hawake hquiet
    refine ⟨hqueue, fun r hr hnotCancelled => ?_⟩
    have hcleared : (downloader.requests r).hasCallbacks = false := by
      cases hcase : (downloader.requests r).hasCallbacks with
      | false => rfl
      | true =>
          have hmem := h.queued r hr hcase
          rw [hqueue] at hmem
          exact absurd hmem List.not_mem_nil
    obtain hcancelled | hcalled := (h.request r).cleared hcleared
    · cases hnotCancelled.symm.trans hcancelled
    · exact hcalled

namespace GiphyDownloader

/-- A GIF of three bytes is downloaded; another request is cancelled. -/
def downloadEvents : List GiphyEvent :=
  [.requestAsset "url" .high, .requestAsset "other" .low, .cancel 1, .runProcess,
    .sizeResponse 0 (some 3), .runBlock 0 (.setContentLength 3), .didReceive 0 0 [1, 2, 3],
    .didComplete 0 0 true, .runBlock 0 (.segmentSucceeded 0), .didWrite 0 0 true,
    .runBlock 0 .requestSucceeded, .runProcess, .runProcess, .runProcess]

def next (downloader : GiphyDownloader) (event : GiphyEvent) : GiphyDownloader :=
  (downloader.step event).getD downloader

theorem run_downloadEvents :
    (initial true).Run downloadEvents (downloadEvents.foldl next (initial true)) := by
  refine @LabelledRun.of_along _ _ _ _ _ next
    (fun downloader event => (downloader.step event).isSome = true) ?_ (by decide +kernel)
  intro downloader event hsome
  obtain ⟨downloader', hstep⟩ := Option.isSome_iff_exists.mp hsome
  rw [next, hstep]
  rfl

end GiphyDownloader

open GiphyDownloader in
theorem completesOnce_downloadEvents :
    let downloader := downloadEvents.foldl next (initial true)
    downloader.assetRequestQueue = [] ∧ (downloader.requests 0).calls.length = 1 ∧
      ∀ later downloader', downloader.Run later downloader' →
        (downloader'.requests 1).calls = [] := by
  intro downloader
  obtain ⟨-, cancelled, quiet⟩ := completesOnce run_downloadEvents
  have hquiet : downloader.IsQuiet := by
    refine ⟨by decide +kernel, fun r => ?_⟩
    match r with
    | 0 | 1 | r + 2 => rfl
  obtain ⟨hqueue, once⟩ := quiet hquiet
  refine ⟨hqueue, once 0 (by decide +kernel) (by decide +kernel), fun later downloader' run => ?_⟩
  rw [cancelled 1 later downloader' (by decide +kernel) run]
  decide +kernel

end ObjcSwiftLearning.Signal
