/-
  Mosn.Proxy.Filters.Sender
  **A RESPONSE ON ITS WAY THROUGH THE SENDER FILTERS** (`onUpstreamHeaders`,
  `onUpstreamData`, `onUpstreamTrailers`, `append…` and `doAppend…` in
  `pkg/proxy/downstream.go`, `upstreamRequest.OnReceiveData`; the sender half
  of `streamfilters.go`).

  `response` is what the `responseSender` is called with.  The trailers that
  `doContinue` looks for are only set by a receiver filter that responds
  itself, never by a response from upstream.
-/
import Mosn.Proxy.Filters.Chain

namespace Mosn.Proxy.Filters

open Mosn.Lib Mosn.Types Mosn.Protocol
open Mosn.Proxy.Lifecycle (FilterHeadersStatus)

/-! ## §1. Model. -/

/-- The response side of a `downStream`.  The last three fields record what
came from upstream, what the `responseSender` got and who was asked about the
headers, and are never read. -/
structure Sender where
  senderFilters : Chain
  buffers : Buffers := {}
  downstreamRespHeaders : HeaderMap := ∅
  downstreamRespTrailers : Option HeaderMap := none
  /-- The request was received to its end. -/
  downstreamRecvDone : Bool := false
  upstreamProcessDone : Bool := false
  received : List Frame := []
  response : List Frame := []
  headerCalls : List HeaderCall := []

namespace Sender

def modifyFilters (s : Sender) (f : Chain → Chain) : Sender :=
  { s with senderFilters := f s.senderFilters }

/-- `handleBufferData`. -/
def handleBufferData (s : Sender) (data : Nat) : Sender :=
  { s with buffers := s.buffers.handleBufferData data }

/-- `responseSender.AppendData`, `responseSender.AppendTrailers`. -/
def appendData (s : Sender) (data : Nat) (endStream : Bool) : Sender :=
  { s with response := s.response ++ [.data (s.buffers.bytes data) endStream] }

def appendTrailers (s : Sender) (trailers : Option HeaderMap) : Sender :=
  { s with response := s.response ++ [.trailers trailers] }

/-- `doAppendHeaders`, from a filter's index on. -/
def doAppendHeaders (d : Decisions) (s : Sender) (index : Nat) (endStream : Bool) : Sender :=
  let pass := runHeadersFilters d.headers s.senderFilters index
  let s := { s with
    senderFilters := pass.chain
    headerCalls := s.headerCalls ++ pass.asked.map .filter }
  if pass.stopped then s
  else
    { s with
      response := s.response ++ [.headers s.downstreamRespHeaders endStream]
      headerCalls := s.headerCalls ++ [.passed] }

/-- The headers in `doContinue`. -/
def continueHeaders (d : Decisions) (s : Sender) (index : Nat) : Sender :=
  if (s.senderFilters.filter index).headersContinued then s
  else
    (s.modifyFilters (·.continueHeaders index)).doAppendHeaders d (index + 1)
      -- there are trailers if the field is nil
      (s.upstreamProcessDone && s.buffers.current.isNone && !s.downstreamRespTrailers.isNone)

/-- The buffer that `doContinue` sends. -/
def continueBuffer (s : Sender) (index : Nat) : Sender :=
  if (s.senderFilters.filter index).stoppedNoBuf || s.buffers.current.isNone then
    { s with buffers := s.buffers.assign [] }
  else s

/-- `doContinue`, with the functions that it enters again. -/
def doContinueWith (d : Decisions) (s : Sender) (index : Nat)
    (doAppendData : Sender → Nat → Bool → Sender)
    (doAppendTrailers : Sender → Option HeaderMap → Sender) : Sender :=
  let hasBuffedData := s.buffers.current.isSome
  let hasTrailer := s.downstreamRespTrailers.isNone
  let s := (s.modifyFilters (·.resume index)).continueHeaders d index
  let s :=
    if hasBuffedData || (s.senderFilters.filter index).stoppedNoBuf then
      let s := s.continueBuffer index
      doAppendData s (s.buffers.current.getD 0) (s.downstreamRecvDone && !hasTrailer)
    else s
  if hasTrailer then doAppendTrailers s s.downstreamRespTrailers else s

mutual

/-- `doAppendData` with the loop of `runAppendDataFilters`; the first argument
is the number of filters from the index on. -/
def doAppendData (d : Decisions) : Nat → Sender → Nat → Nat → Bool → Sender
  | 0, s, _, data, endStream => s.appendData data endStream
  | n + 1, s, index, data, endStream =>
    match d.data index with
    | .continue_ =>
      if (s.senderFilters.filter index).stopped then
        doContinueWith d (s.handleBufferData data) index
          (fun s => doAppendData d n s (index + 1))
          (fun s => doAppendTrailers d n s (index + 1))
      else doAppendData d n s (index + 1) data endStream
    | .stopIterationNoBuffer =>
      { s.modifyFilters (·.stopNoBuf index) with buffers := s.buffers.reset data }
    | .stopIterationAndBuffer | .stopIterationAndWatermark =>
      (s.modifyFilters (·.stop index)).handleBufferData data

/-- `doAppendTrailers` with the loop of `runAppendTrailersFilters`. -/
def doAppendTrailers (d : Decisions) : Nat → Sender → Nat → Option HeaderMap → Sender
  | 0, s, _, trailers => s.appendTrailers trailers
  | n + 1, s, index, trailers =>
    match d.trailers index with
    | .continue_ =>
      if (s.senderFilters.filter index).stopped then
        doContinueWith d s index (fun s => doAppendData d n s (index + 1))
          (fun s => doAppendTrailers d n s (index + 1))
      else doAppendTrailers d n s (index + 1) trailers
    | .stopIteration => s.modifyFilters (·.stopTrailers index)

end

/-- `ContinueEncoding` of the filter at the index. -/
def continueEncoding (d : Decisions) (s : Sender) (index : Nat) : Sender :=
  let n := s.senderFilters.count - (index + 1)
  doContinueWith d s index (fun s => doAppendData d n s (index + 1))
    (fun s => doAppendTrailers d n s (index + 1))

/-- `onUpstreamHeaders` without a retry, and `appendHeaders`. -/
def onUpstreamHeaders (d : Decisions) (s : Sender) (headers : HeaderMap) (endStream : Bool) :
    Sender :=
  { s with downstreamRespHeaders := headers, upstreamProcessDone := endStream }.doAppendHeaders d 0
    endStream

/-- `OnReceiveData`, and then `onUpstreamData` with the buffer of the event, and
`appendData`. -/
def onUpstreamData (d : Decisions) (s : Sender) (bytes : List UInt8) (endStream : Bool) : Sender :=
  doAppendData d s.senderFilters.count
    { s with buffers := s.buffers.assign (d.clone bytes), upstreamProcessDone := endStream } 0
    s.buffers.heap.length endStream

/-- `onUpstreamTrailers` and `appendTrailers`. -/
def onUpstreamTrailers (d : Decisions) (s : Sender) (trailers : Option HeaderMap) : Sender :=
  doAppendTrailers d s.senderFilters.count { s with upstreamProcessDone := true } 0 trailers

/-- What can happen: an event of the response, or a filter continues. -/
inductive Action where
  | receive (frame : Frame) (d : Decisions)
  | continueEncoding (index : Nat) (d : Decisions)

def receive (d : Decisions) (s : Sender) : Frame → Sender
  | .headers headers endStream => s.onUpstreamHeaders d headers endStream
  | .data bytes endStream => s.onUpstreamData d bytes endStream
  | .trailers trailers => s.onUpstreamTrailers d trailers

/-- One step of a response.  Only a filter that has stopped something
continues. -/
def step (s : Sender) : Action → Option Sender
  | .receive frame d =>
    if Frame.follows s.received frame then
      some ({ s with received := s.received ++ [frame] }.receive d frame)
    else none
  | .continueEncoding index d =>
    if index < s.senderFilters.count ∧ (s.senderFilters.filter index).waits then
      some (s.continueEncoding d index)
    else none

def Step (s : Sender) (a : Action) (s' : Sender) : Prop := s.step a = some s'

/-- A stream with that many filters, whose request may be complete. -/
def new (count : Nat) (downstreamRecvDone : Bool) : Sender :=
  { senderFilters := { count }, downstreamRecvDone }

/-! ## §2. Whoever continues sends trailers. -/

/-- Trailers that are `nil` were sent. -/
def SentNil (s : Sender) : Prop := .trailers none ∈ s.response

/-- A filter still keeps something back, or such trailers were sent. -/
def Settles (s : Sender) : Prop :=
  (∃ i < s.senderFilters.count, (s.senderFilters.filter i).waits = true) ∨ s.SentNil

/-- What every function leaves alone: the number of filters, the trailers that
`doContinue` looks for, and that somebody stopped. -/
structure Keeps (s s' : Sender) : Prop where
  count : s'.senderFilters.count = s.senderFilters.count
  trailers : s'.downstreamRespTrailers = s.downstreamRespTrailers
  everStopped : s.senderFilters.everStopped = true → s'.senderFilters.everStopped = true

variable (s : Sender)

theorem Keeps.refl : Keeps s s := ⟨rfl, rfl, id⟩

theorem Keeps.trans {s t u : Sender} (h : Keeps s t) (h' : Keeps t u) : Keeps s u :=
  ⟨h'.count.trans h.count, h'.trailers.trans h.trailers,
    fun hs => h'.everStopped (h.everStopped hs)⟩

theorem keeps_modifyFilters {f : Chain → Chain}
    (hf : (f s.senderFilters).count = s.senderFilters.count)
    (hever : s.senderFilters.everStopped = true → (f s.senderFilters).everStopped = true) :
    Keeps s (s.modifyFilters f) :=
  ⟨hf, rfl, hever⟩

theorem keeps_handleBufferData (data : Nat) : Keeps s (s.handleBufferData data) :=
  ⟨rfl, rfl, id⟩

theorem keeps_appendData (data : Nat) (endStream : Bool) :
    Keeps s (s.appendData data endStream) := ⟨rfl, rfl, id⟩

theorem keeps_appendTrailers (trailers : Option HeaderMap) :
    Keeps s (s.appendTrailers trailers) := ⟨rfl, rfl, id⟩

end Sender

theorem runHeadersFilters_count (status : Nat → FilterHeadersStatus) (chain : Chain) (index : Nat) :
    (runHeadersFilters status chain index).chain.count = chain.count := by
  unfold runHeadersFilters
  split
  · split <;> rfl
  · rfl

theorem runHeadersFilters_everStopped (status : Nat → FilterHeadersStatus) (chain : Chain)
    (index : Nat) :
    chain.everStopped = true → (runHeadersFilters status chain index).chain.everStopped = true := by
  intro h
  unfold runHeadersFilters
  split
  · split
    · rfl
    · exact h
  · exact h

namespace Sender

theorem keeps_doAppendHeaders (d : Decisions) (s : Sender) (index : Nat) (endStream : Bool) :
    Keeps s (s.doAppendHeaders d index endStream) := by
  have hcount := runHeadersFilters_count d.headers s.senderFilters index
  have hever := runHeadersFilters_everStopped d.headers s.senderFilters index
  unfold doAppendHeaders
  dsimp only
  split
  · exact ⟨hcount, rfl, hever⟩
  · exact ⟨hcount, rfl, hever⟩

theorem keeps_continueHeaders (d : Decisions) (s : Sender) (index : Nat) :
    Keeps s (s.continueHeaders d index) := by
  unfold continueHeaders
  split
  · exact .refl s
  · exact (keeps_modifyFilters s rfl id).trans (keeps_doAppendHeaders d _ _ _)

theorem keeps_continueBuffer (s : Sender) (index : Nat) : Keeps s (s.continueBuffer index) := by
  unfold continueBuffer
  split
  · exact ⟨rfl, rfl, id⟩
  · exact .refl s

variable {s s' : Sender} {frame : Frame} {i : Nat}

variable (d : Decisions) (n : Nat)

/-- **`doContinue` ends with trailers**, whatever it sends before. -/
theorem doContinueWith_cases {index : Nat} (htrailers : s.downstreamRespTrailers = none)
    (hdata : ∀ (t : Sender) (data : Nat) (endStream : Bool), t.downstreamRespTrailers = none →
      Keeps t (doAppendData d n t (index + 1) data endStream)) :
    ∃ t, Keeps s t ∧ doContinueWith d s index (fun s => doAppendData d n s (index + 1))
      (fun s => doAppendTrailers d n s (index + 1)) = doAppendTrailers d n t (index + 1) none := by
  have hheaders : Keeps s ((s.modifyFilters (·.resume index)).continueHeaders d index) :=
    (keeps_modifyFilters s rfl id).trans (keeps_continueHeaders d _ index)
  have hlast : ∀ t : Sender, Keeps s t → ∃ t', Keeps s t' ∧
      (if s.downstreamRespTrailers.isNone then
        doAppendTrailers d n t (index + 1) t.downstreamRespTrailers else t)
        = doAppendTrailers d n t' (index + 1) none := by
    intro t ht
    refine ⟨t, ht, ?_⟩
    rw [ht.trailers, htrailers]
    rfl
  unfold doContinueWith
  dsimp only
  apply hlast
  split
  · have hbuffer := hheaders.trans (keeps_continueBuffer _ index)
    exact hbuffer.trans (hdata _ _ _ (hbuffer.trailers.trans htrailers))
  · exact hheaders

theorem keeps_loops :
    (∀ (s : Sender) (index data : Nat) (endStream : Bool), s.downstreamRespTrailers = none →
        Keeps s (doAppendData d n s index data endStream))
      ∧ ∀ (s : Sender) (index : Nat) (trailers : Option HeaderMap),
        s.downstreamRespTrailers = none → Keeps s (doAppendTrailers d n s index trailers) := by
  induction n with
  | zero =>
    exact ⟨fun s _ data endStream _ => keeps_appendData s data endStream,
      fun s _ trailers _ => keeps_appendTrailers s trailers⟩
  | succ n ih =>
    -- entering the loops again from the next filter on
    have hcontinue : ∀ (s : Sender) (index : Nat), s.downstreamRespTrailers = none →
        Keeps s (doContinueWith d s index (fun s => doAppendData d n s (index + 1))
          (fun s => doAppendTrailers d n s (index + 1))) := by
      intro s index htrailers
      obtain ⟨t, ht, heq⟩ := doContinueWith_cases d n htrailers fun t => ih.1 t (index + 1)
      rw [heq]
      exact ht.trans (ih.2 t (index + 1) none (ht.trailers.trans htrailers))
    constructor
    · intro s index data endStream htrailers
      unfold doAppendData
      split
      · split
        · exact (keeps_handleBufferData s data).trans (hcontinue _ index htrailers)
        · exact ih.1 s (index + 1) data endStream htrailers
      · exact ⟨rfl, rfl, fun _ => rfl⟩
      · exact ⟨rfl, rfl, fun _ => rfl⟩
      · exact ⟨rfl, rfl, fun _ => rfl⟩
    · intro s index trailers htrailers
      unfold doAppendTrailers
      split
      · grind
      · exact keeps_modifyFilters s rfl fun _ => rfl

theorem doAppendTrailers_settles : ∀ (s : Sender) (index : Nat),
    s.downstreamRespTrailers = none → index + n = s.senderFilters.count →
    (doAppendTrailers d n s index none).Settles := by
  induction n with
  | zero =>
    intro s index _ _
    exact Or.inr (List.mem_append_right _ (.head _))
  | succ n ih =>
    intro s index htrailers hcount
    unfold doAppendTrailers
    split
    · split
      · obtain ⟨t, ht, heq⟩ := doContinueWith_cases d n htrailers
          fun t => (keeps_loops d n).1 t (index + 1)
        rw [heq]
        exact ih t (index + 1) (ht.trailers.trans htrailers) (by rw [ht.count]; omega)
      · exact ih s (index + 1) htrailers (by omega)
    · refine Or.inl ⟨index, ?_, ?_⟩
      · show index < s.senderFilters.count
        omega
      · exact Chain.waits_stopTrailers ..

/-- Somebody stopped, and keeps something back or `nil` was sent. -/
def Stopped (s : Sender) : Prop := s.senderFilters.everStopped = true ∧ s.Settles

/-- **After `doContinue` a filter keeps something back, or `nil` was sent.** -/
theorem doContinueWith_stopped (index : Nat) (htrailers : s.downstreamRespTrailers = none)
    (hcount : index + 1 + n = s.senderFilters.count) (hever : s.senderFilters.everStopped = true) :
    ∃ t : Sender, doContinueWith d s index (fun s => doAppendData d n s (index + 1))
      (fun s => doAppendTrailers d n s (index + 1)) = t
        ∧ t.Stopped ∧ t.downstreamRespTrailers = none := by
  obtain ⟨t, ht, heq⟩ := doContinueWith_cases d n htrailers
    fun t => (keeps_loops d n).1 t (index + 1)
  have hnone := ht.trailers.trans htrailers
  have hkeeps := (keeps_loops d n).2 t (index + 1) none hnone
  refine ⟨_, heq, ⟨hkeeps.everStopped (ht.everStopped hever), ?_⟩, hkeeps.trailers.trans hnone⟩
  exact doAppendTrailers_settles d n t (index + 1) hnone (by rw [ht.count]; exact hcount)

/-- The frame was handed on, and nobody stopped or continued. -/
@[local grind cases]
structure Forwards (s s' : Sender) (frame : Frame) : Prop where
  count : s'.senderFilters.count = s.senderFilters.count
  everStopped : s'.senderFilters.everStopped = s.senderFilters.everStopped
  stopped : ∀ i, (s'.senderFilters.filter i).stopped = (s.senderFilters.filter i).stopped
  waits : ∀ i, (s'.senderFilters.filter i).waits = (s.senderFilters.filter i).waits
  response : s'.response = s.response ++ [frame]
  received : s'.received = s.received
  trailers : s'.downstreamRespTrailers = s.downstreamRespTrailers

theorem Settles.forwards (hs : s.Settles) (h : Forwards s s' frame) : s'.Settles := by
  rcases hs with ⟨i, hi, hwaits⟩ | hnil
  · exact Or.inl ⟨i, by rw [h.count]; exact hi, by rw [h.waits]; exact hwaits⟩
  · right
    unfold SentNil
    rw [h.response]
    exact List.mem_append_left _ hnil

theorem doAppendHeaders_cases (s : Sender) (index : Nat) (endStream : Bool) :
    (s.doAppendHeaders d index endStream).Stopped
      ∨ Forwards s (s.doAppendHeaders d index endStream)
          (.headers s.downstreamRespHeaders endStream) := by
  unfold doAppendHeaders runHeadersFilters
  by_cases hindex : index < s.senderFilters.count
  · rw [if_pos hindex]
    cases d.headers index with
    | stopIteration =>
      exact Or.inl ⟨rfl, Or.inl ⟨index, hindex, Chain.waits_stop ..⟩⟩
    | continue_ =>
      right
      refine ⟨rfl, rfl, ?_, ?_, rfl, rfl, rfl⟩ <;> grind [Chain.filter_continueHeaders]
  · rw [if_neg hindex]
    exact Or.inr ⟨rfl, rfl, fun _ => rfl, fun _ => rfl, rfl, rfl, rfl⟩

theorem doAppendData_cases (data : Nat) (endStream : Bool) :
    ∀ (s : Sender) (index : Nat), s.downstreamRespTrailers = none →
    index + n = s.senderFilters.count →
    (∀ i, (s.senderFilters.filter i).stopped = true → s.senderFilters.everStopped = true) →
    (doAppendData d n s index data endStream).Stopped
      ∨ Forwards s (doAppendData d n s index data endStream)
          (.data (s.buffers.bytes data) endStream) := by
  induction n with
  | zero =>
    intro s index _ _ _
    exact Or.inr ⟨rfl, rfl, fun _ => rfl, fun _ => rfl, rfl, rfl, rfl⟩
  | succ n ih =>
    intro s index htrailers hcount hflags
    have hindex : index < s.senderFilters.count := by omega
    unfold doAppendData
    split
    · split
      · rename_i hstopped
        have hleft : index + 1 + n = s.senderFilters.count := by omega
        obtain ⟨t, heq, ht, -⟩ := doContinueWith_stopped (s := s.handleBufferData data) d n
          index htrailers hleft (hflags index hstopped)
        exact Or.inl (heq ▸ ht)
      · exact ih s (index + 1) htrailers (by omega) hflags
    · exact Or.inl ⟨rfl, Or.inl ⟨index, hindex, Chain.waits_stopNoBuf ..⟩⟩
    · exact Or.inl ⟨rfl, Or.inl ⟨index, hindex, Chain.waits_stop ..⟩⟩
    · exact Or.inl ⟨rfl, Or.inl ⟨index, hindex, Chain.waits_stop ..⟩⟩

theorem doAppendTrailers_cases (trailers : Option HeaderMap) :
    ∀ (s : Sender) (index : Nat), s.downstreamRespTrailers = none →
    index + n = s.senderFilters.count →
    (∀ i, (s.senderFilters.filter i).stopped = true → s.senderFilters.everStopped = true) →
    (doAppendTrailers d n s index trailers).Stopped
      ∨ Forwards s (doAppendTrailers d n s index trailers) (.trailers trailers) := by
  induction n with
  | zero =>
    intro s index _ _ _
    exact Or.inr ⟨rfl, rfl, fun _ => rfl, fun _ => rfl, rfl, rfl, rfl⟩
  | succ n ih =>
    intro s index htrailers hcount hflags
    have hindex : index < s.senderFilters.count := by omega
    unfold doAppendTrailers
    split
    · split
      · rename_i hstopped
        obtain ⟨t, heq, ht, -⟩ :=
          doContinueWith_stopped d n index htrailers (by omega) (hflags index hstopped)
        exact Or.inl (heq ▸ ht)
      · exact ih s (index + 1) htrailers (by omega) hflags
    · exact Or.inl ⟨rfl, Or.inl ⟨index, hindex, Chain.waits_stopTrailers ..⟩⟩

/-- **A frame comes in**: somebody stops, or it is handed on. -/
theorem receive_cases (s : Sender) (frame : Frame) (htrailers : s.downstreamRespTrailers = none)
    (hflags : ∀ i, (s.senderFilters.filter i).stopped = true →
      s.senderFilters.everStopped = true) :
    (s.receive d frame).downstreamRespTrailers = none
      ∧ ((s.receive d frame).Stopped ∨ Forwards s (s.receive d frame) frame) := by
  cases frame with
  | headers headers endStream =>
    refine ⟨(keeps_doAppendHeaders d _ 0 endStream).trailers.trans htrailers, ?_⟩
    refine (doAppendHeaders_cases d _ 0 endStream).imp id fun h => ?_
    exact ⟨h.count, h.everStopped, h.stopped, h.waits, h.response, h.received, h.trailers⟩
  | data bytes endStream =>
    have hcases := doAppendData_cases d s.senderFilters.count s.buffers.heap.length endStream
      { s with buffers := s.buffers.assign (d.clone bytes), upstreamProcessDone := endStream } 0
      htrailers (Nat.zero_add _) hflags
    have hkeeps := (keeps_loops d s.senderFilters.count).1
      { s with buffers := s.buffers.assign (d.clone bytes), upstreamProcessDone := endStream } 0
      s.buffers.heap.length endStream htrailers
    refine ⟨hkeeps.trailers.trans htrailers, hcases.imp id fun h => ?_⟩
    have hbytes : (s.buffers.assign (d.clone bytes)).bytes s.buffers.heap.length = bytes :=
      (Buffers.bytes_assign ..).trans (d.clone_eq bytes)
    have hresponse := h.response
    dsimp only at hresponse
    rw [hbytes] at hresponse
    exact ⟨h.count, h.everStopped, h.stopped, h.waits, hresponse, h.received, h.trailers⟩
  | trailers trailers =>
    have hcases := doAppendTrailers_cases d s.senderFilters.count trailers
      { s with upstreamProcessDone := true } 0 htrailers (Nat.zero_add _) hflags
    have hkeeps := (keeps_loops d s.senderFilters.count).2
      { s with upstreamProcessDone := true } 0 trailers htrailers
    refine ⟨hkeeps.trailers.trans htrailers, hcases.imp id fun h => ?_⟩
    exact ⟨h.count, h.everStopped, h.stopped, h.waits, h.response, h.received, h.trailers⟩

/-! ## §3. Every run. -/

/-- As long as nobody stops, frames are handed on as they come; from then on
somebody keeps something back, or trailers that are `nil` were sent. -/
@[local grind cases]
structure Inv (s : Sender) : Prop where
  trailers : s.downstreamRespTrailers = none
  settled : s.senderFilters.everStopped = true → s.Settles
  flags : s.senderFilters.everStopped = false →
    ∀ i, (s.senderFilters.filter i).stopped = false ∧ (s.senderFilters.filter i).waits = false
  plain : s.senderFilters.everStopped = false → s.response = s.received

theorem inv_new (count : Nat) (downstreamRecvDone : Bool) : (new count downstreamRecvDone).Inv where
  trailers := rfl
  settled h := by cases h
  flags _ _ := ⟨rfl, rfl⟩
  plain _ := rfl

theorem Stopped.inv (hs : s.Stopped) (htrailers : s.downstreamRespTrailers = none) : s.Inv where
  trailers := htrailers
  settled _ := hs.2
  flags h := by
    rw [hs.1] at h
    cases h
  plain h := by
    rw [hs.1] at h
    cases h

theorem Inv.everStopped_of_stopped (hs : s.Inv)
    (hi : (s.senderFilters.filter i).stopped = true) : s.senderFilters.everStopped = true := by
  by_contra hever
  grind

theorem Inv.everStopped_of_waits (hs : s.Inv)
    (hi : (s.senderFilters.filter i).waits = true) : s.senderFilters.everStopped = true := by
  by_contra hever
  grind

theorem Inv.forwards (hs : s.Inv)
    (h : Forwards { s with received := s.received ++ [frame] } s' frame) : s'.Inv := by
  have heq : s'.senderFilters.everStopped = s.senderFilters.everStopped := h.everStopped
  refine ⟨h.trailers.trans hs.trailers, fun hever => ?_, fun hever i => ?_, fun hever => ?_⟩
  · rw [heq] at hever
    have hsettles : Settles { s with received := s.received ++ [frame] } := hs.settled hever
    exact hsettles.forwards h
  · rw [heq] at hever
    rw [h.stopped i, h.waits i]
    exact hs.flags hever i
  · grind

theorem inv_step {a : Action} (hs : s.Inv) (h : s.Step a s') : s'.Inv := by
  cases a with
  | receive frame d =>
    obtain ⟨-, h⟩ := Option.ite_none_right_eq_some.mp h
    cases h
    obtain ⟨htrailers, hstopped | hforwards⟩ :=
      receive_cases d { s with received := s.received ++ [frame] } frame hs.trailers
        fun _ hi => hs.everStopped_of_stopped hi
    · exact hstopped.inv htrailers
    · exact hs.forwards hforwards
  | continueEncoding index d =>
    obtain ⟨⟨hindex, hwaits⟩, h⟩ := Option.ite_none_right_eq_some.mp h
    cases h
    obtain ⟨t, heq, hstopped, htrailers⟩ := doContinueWith_stopped d
      (s.senderFilters.count - (index + 1)) index hs.trailers (by omega)
      (hs.everStopped_of_waits hwaits)
    unfold continueEncoding
    dsimp only
    rw [heq]
    exact hstopped.inv htrailers

end Sender

theorem trailers_nil_not_mem_deliverData (trailers : Option HeaderMap)
    (chunks : List (List UInt8)) : .trailers none ∉ deliverData trailers chunks := by
  induction chunks with
  | nil => exact List.not_mem_nil
  | cons chunk chunks ih =>
    cases chunks with
    | nil => simp [deliverData]
    | cons => simpa [deliverData] using ih

theorem trailers_nil_not_mem_deliver (headers : HeaderMap) (chunks : List (List UInt8))
    (trailers : Option HeaderMap) : .trailers none ∉ deliver headers chunks trailers := by
  unfold deliver
  simp [trailers_nil_not_mem_deliverData]

namespace Sender

/-- **Buffering of responses is transparent exactly when there is none.**  After
any run that received a whole response and left no filter waiting, the
`responseSender` got this response, in whatever chunks, exactly when no filter
ever stopped. -/
theorem transparent_iff {count : Nat} {downstreamRecvDone : Bool} {s : Sender}
    {as : List Action} (hrun : Run Step (new count downstreamRecvDone) as s)
    {headers : HeaderMap} {chunks : List (List UInt8)} {trailers : Option HeaderMap}
    (hreceived : s.received = deliver headers chunks trailers)
    (hwaits : ∀ i < s.senderFilters.count, (s.senderFilters.filter i).waits = false) :
    Delivers s.response headers chunks.flatten trailers
      ↔ s.senderFilters.everStopped = false := by
  have hs := hrun.invariant Inv (fun _ _ _ => inv_step) (inv_new count downstreamRecvDone)
  constructor
  · rintro ⟨chunks', -, hresponse⟩
    by_contra hever
    rcases hs.settled (Bool.not_eq_false _ ▸ hever) with ⟨i, hi, hwait⟩ | hnil
    · rw [hwaits i hi] at hwait
      cases hwait
    · unfold SentNil at hnil
      rw [hresponse] at hnil
      exact trailers_nil_not_mem_deliver headers chunks' trailers hnil
  · intro hever
    exact ⟨chunks, rfl, by rw [hs.plain hever, hreceived]⟩

/-- A response that nobody stops. -/
theorem passedResponse_transparent : ∃ s, Run Step (new 1 true)
        [.receive (.headers ∅ false) {}, .receive (.data [7] true) {}] s
      ∧ s.received = deliver ∅ [[7]] none ∧ Delivers s.response ∅ [7] none := by
  have hrun : ∃ s, runSteps step (new 1 true)
      [.receive (.headers ∅ false) {}, .receive (.data [7] true) {}] = some s
      ∧ s.received = deliver ∅ [[7]] none
      ∧ (∀ i < s.senderFilters.count, (s.senderFilters.filter i).waits = false)
      ∧ s.senderFilters.everStopped = false := ⟨_, rfl, rfl, by decide, rfl⟩
  obtain ⟨s, hsteps, hreceived, hwaits, hever⟩ := hrun
  exact ⟨s, run_of_runSteps hsteps, hreceived,
    (transparent_iff (run_of_runSteps hsteps) hreceived hwaits).mpr hever⟩

/-- Whoever is asked stops the headers. -/
def stopsHeaders : Decisions := { headers := fun _ => .stopIteration }

/-- **The only filter stops headers without a body, and continues**: they are
sent without the end of the stream, and trailers follow that upstream never
sent. -/
theorem continuedHeaders_trailers : ∃ s, Run Step (new 1 true)
        [.receive (.headers ∅ true) stopsHeaders, .continueEncoding 0 {}] s
      ∧ s.received = deliver ∅ [] none
      ∧ (∀ i < s.senderFilters.count, (s.senderFilters.filter i).waits = false)
      ∧ s.response = [.headers ∅ false, .trailers none] :=
  ⟨_, run_of_runSteps (f := step) rfl, rfl, by decide, rfl⟩

end Sender

end Mosn.Proxy.Filters
