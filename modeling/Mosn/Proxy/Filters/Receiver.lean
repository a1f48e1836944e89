/-
  Mosn.Proxy.Filters.Receiver
  **A REQUEST ON ITS WAY THROUGH THE RECEIVER FILTERS** (`ReceiveHeaders`,
  `OnReceiveData`, `ReceiveData`, `ReceiveTrailers` and their `do` variants in
  `pkg/proxy/downstream.go`; the receiver half of `streamfilters.go`).

  A filter that continues sends what is kept back from its place in the chain
  on, and the functions of the loops are entered again from there.  Each round
  is about fewer filters, so the recursion is on their number.

  Events are processed one after another.  A route and a connection are found,
  and the connection pool calls back at once: `upstream` is what the upstream
  requests of the stream are given, new headers beginning a new one.
-/
import Mosn.Proxy.Filters.Chain

namespace Mosn.Proxy.Filters

open Mosn.Lib Mosn.Types Mosn.Protocol

/-! ## §1. Model. -/

/-- The request side of a `downStream`.  The last three fields record what was
received, what the upstream requests got and who was asked about the headers,
and are never read. -/
structure Receiver where
  receiverFilters : Chain
  buffers : Buffers := {}
  downstreamReqHeaders : HeaderMap := ∅
  downstreamReqTrailers : Option HeaderMap := none
  downstreamRecvDone : Bool := false
  upstreamProcessDone : Bool := false
  /-- Whether `upstreamRequest` is set. -/
  upstreamRequest : Bool := false
  received : List Frame := []
  upstream : List Frame := []
  headerCalls : List HeaderCall := []

namespace Receiver

def modifyFilters (s : Receiver) (f : Chain → Chain) : Receiver :=
  { s with receiverFilters := f s.receiverFilters }

/-- `handleBufferData`. -/
def handleBufferData (s : Receiver) (data : Nat) : Receiver :=
  { s with buffers := s.buffers.handleBufferData data }

/-- `upstreamRequest.appendData`; `none` if there is no upstream request. -/
def appendData (s : Receiver) (data : Nat) (endStream : Bool) : Option Receiver :=
  if s.upstreamRequest then
    some { s with upstream := s.upstream ++ [.data (s.buffers.bytes data) endStream] }
  else none

/-- The end of `doReceiveTrailers`. -/
def appendTrailers (s : Receiver) (trailers : HeaderMap) : Option Receiver :=
  if s.upstreamRequest then
    some { s with
      downstreamReqTrailers := some trailers
      upstream := s.upstream ++ [.trailers (some trailers)] }
  else none

/-- `doReceiveHeaders`, from a filter's index on. -/
def doReceiveHeaders (d : Decisions) (s : Receiver) (index : Nat) (endStream : Bool) : Receiver :=
  let pass := runHeadersFilters d.headers s.receiverFilters index
  let s := { s with
    receiverFilters := pass.chain
    headerCalls := s.headerCalls ++ pass.asked.map .filter }
  if pass.stopped then s
  else
    { s with
      upstreamRequest := true
      upstream := s.upstream ++ [.headers s.downstreamReqHeaders endStream]
      headerCalls := s.headerCalls ++ [.passed] }

/-- The headers in `doContinue`. -/
def continueHeaders (d : Decisions) (s : Receiver) (index : Nat) : Receiver :=
  if (s.receiverFilters.filter index).headersContinued then s
  else
    (s.modifyFilters (·.continueHeaders index)).doReceiveHeaders d (index + 1)
      (s.downstreamRecvDone && s.buffers.current.isNone && s.downstreamReqTrailers.isNone)

/-- The buffer that `doContinue` sends. -/
def continueBuffer (s : Receiver) (index : Nat) : Receiver :=
  if (s.receiverFilters.filter index).stoppedNoBuf || s.buffers.current.isNone then
    { s with buffers := s.buffers.assign [] }
  else s

/-- `doContinue`, with the functions that it enters again. -/
def doContinueWith (d : Decisions) (s : Receiver) (index : Nat)
    (doReceiveData : Receiver → Nat → Bool → Option Receiver)
    (doReceiveTrailers : Receiver → HeaderMap → Option Receiver) : Option Receiver :=
  if s.upstreamProcessDone then some s
  else
    let hasBuffedData := s.buffers.current.isSome
    let hasTrailer := s.downstreamReqTrailers.isSome
    let s := (s.modifyFilters (·.resume index)).continueHeaders d index
    (if hasBuffedData || (s.receiverFilters.filter index).stoppedNoBuf then
      let s := s.continueBuffer index
      doReceiveData s (s.buffers.current.getD 0) (s.downstreamRecvDone && !hasTrailer)
    else some s).bind fun s =>
      if hasTrailer then doReceiveTrailers s (s.downstreamReqTrailers.getD ∅) else some s

mutual

/-- `doReceiveData` with the loop of `runReceiveDataFilters`; the first argument
is the number of filters from the index on. -/
def doReceiveData (d : Decisions) : Nat → Receiver → Nat → Nat → Bool → Option Receiver
  | 0, s, _, data, endStream => s.appendData data endStream
  | n + 1, s, index, data, endStream =>
    if s.upstreamProcessDone then s.appendData data endStream
    else
      match d.data index with
      | .continue_ =>
        if (s.receiverFilters.filter index).stopped then
          -- the loop returns false: the data is sent once more
          (doContinueWith d (s.handleBufferData data) index
            (fun s => doReceiveData d n s (index + 1))
            (fun s => doReceiveTrailers d n s (index + 1))).bind
              fun s => s.appendData data endStream
        else doReceiveData d n s (index + 1) data endStream
      | .stopIterationNoBuffer =>
        some { s.modifyFilters (·.stopNoBuf index) with buffers := s.buffers.reset data }
      | .stopIterationAndBuffer | .stopIterationAndWatermark =>
        some ((s.modifyFilters (·.stop index)).handleBufferData data)

/-- `doReceiveTrailers` with the loop of `runReceiveTrailersFilters`. -/
def doReceiveTrailers (d : Decisions) : Nat → Receiver → Nat → HeaderMap → Option Receiver
  | 0, s, _, trailers => s.appendTrailers trailers
  | n + 1, s, index, trailers =>
    if s.upstreamProcessDone then s.appendTrailers trailers
    else
      match d.trailers index with
      | .continue_ =>
        if (s.receiverFilters.filter index).stopped then
          (doContinueWith d s index
            (fun s => doReceiveData d n s (index + 1))
            (fun s => doReceiveTrailers d n s (index + 1))).bind
              fun s => s.appendTrailers trailers
        else doReceiveTrailers d n s (index + 1) trailers
      | .stopIteration => some (s.modifyFilters (·.stopTrailers index))

end

/-- `ContinueDecoding` of the filter at the index. -/
def continueDecoding (d : Decisions) (s : Receiver) (index : Nat) : Option Receiver :=
  let n := s.receiverFilters.count - (index + 1)
  doContinueWith d s index (fun s => doReceiveData d n s (index + 1))
    (fun s => doReceiveTrailers d n s (index + 1))

/-- `ReceiveHeaders`. -/
def receiveHeaders (d : Decisions) (s : Receiver) (headers : HeaderMap) (endStream : Bool) :
    Receiver :=
  { s with downstreamRecvDone := endStream, downstreamReqHeaders := headers }.doReceiveHeaders d 0
    endStream

/-- `OnReceiveData`, and then `ReceiveData` with the buffer of the event. -/
def receiveData (d : Decisions) (s : Receiver) (bytes : List UInt8) (endStream : Bool) :
    Option Receiver :=
  let data := s.buffers.heap.length
  let s := { s with buffers := s.buffers.assign (d.clone bytes) }
  if s.upstreamProcessDone then some s
  else
    doReceiveData d s.receiverFilters.count { s with downstreamRecvDone := endStream } 0 data
      endStream

/-- `ReceiveTrailers`. -/
def receiveTrailers (d : Decisions) (s : Receiver) (trailers : HeaderMap) : Option Receiver :=
  if s.upstreamProcessDone then some s
  else doReceiveTrailers d s.receiverFilters.count { s with downstreamRecvDone := true } 0 trailers

/-- What can happen: an event of the request, or a filter continues. -/
inductive Action where
  | receive (frame : Frame) (d : Decisions)
  | continueDecoding (index : Nat) (d : Decisions)

def receive (d : Decisions) (s : Receiver) : Frame → Option Receiver
  | .headers headers endStream => some (s.receiveHeaders d headers endStream)
  | .data bytes endStream => s.receiveData d bytes endStream
  | .trailers (some trailers) => s.receiveTrailers d trailers
  | .trailers none => none

/-- One step of a request.  Only a filter that has stopped something
continues. -/
def step (s : Receiver) : Action → Option Receiver
  | .receive frame d =>
    if Frame.follows s.received frame then
      { s with received := s.received ++ [frame] }.receive d frame
    else none
  | .continueDecoding index d =>
    if index < s.receiverFilters.count ∧ (s.receiverFilters.filter index).waits then
      s.continueDecoding d index
    else none

def Step (s : Receiver) (a : Action) (s' : Receiver) : Prop := s.step a = some s'

/-- A stream with that many filters. -/
def new (count : Nat) : Receiver := { receiverFilters := { count } }

end Receiver

end Mosn.Proxy.Filters
