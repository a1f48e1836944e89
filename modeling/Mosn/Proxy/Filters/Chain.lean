/-
  Mosn.Proxy.Filters.Chain
  **STREAM FILTERS** (what `pkg/proxy/streamfilters.go` has twice, for
  receiver and for sender filters).

  A filter is asked about headers, data and trailers, and answers whether they
  may pass.  What it keeps back it continues later.  Per filter the proxy has
  three flags; data that is kept back is in one buffer of the stream, shared
  by all filters.

  The loops over the headers are one function here, with the index to start
  from.  They end in their first round, whatever the answer is.
-/
import Mosn.Protocol.SofaRpc.Handler
import Mosn.Proxy.DownStream

namespace Mosn.Proxy.Filters

open Mosn.Lib Mosn.Types Mosn.Protocol
open Mosn.Proxy.Lifecycle (FilterHeadersStatus FilterDataStatus FilterTrailersStatus)

/-! ## §1. What passes a chain. -/

/-- Headers, a chunk of the body, trailers: as they come in, and as they are
handed on.  `none` are trailers that are `nil`. -/
inductive Frame where
  | headers (headers : HeaderMap) (endStream : Bool)
  | data (bytes : List UInt8) (endStream : Bool)
  | trailers (trailers : Option HeaderMap)
  deriving DecidableEq

namespace Frame

/-- Whether the stream ends with it. -/
def ends : Frame → Bool
  | headers _ endStream => endStream
  | data _ endStream => endStream
  | trailers _ => true

def isHeaders : Frame → Bool
  | headers .. => true
  | _ => false

/-- Headers come first and once, and nothing comes after the end. -/
def follows (received : List Frame) (frame : Frame) : Bool :=
  match received.getLast? with
  | none => frame.isHeaders
  | some last => !frame.isHeaders && !last.ends

end Frame

/-- The chunks of a body, the last of which ends the stream unless there are
trailers. -/
def deliverData (trailers : Option HeaderMap) : List (List UInt8) → List Frame
  | [] => []
  | [chunk] => [.data chunk trailers.isNone]
  | chunk :: chunks => .data chunk false :: deliverData trailers chunks

/-- A whole message: the headers once, the chunks, the trailers if there are
any, and one end, at the last of these. -/
def deliver (headers : HeaderMap) (chunks : List (List UInt8)) (trailers : Option HeaderMap) :
    List Frame :=
  .headers headers (chunks.isEmpty && trailers.isNone) :: deliverData trailers chunks
    ++ trailers.toList.map fun t => .trailers (some t)

/-- The frames are a message with these headers, this body and these trailers,
in whatever chunks. -/
def Delivers (frames : List Frame) (headers : HeaderMap) (body : List UInt8)
    (trailers : Option HeaderMap) : Prop :=
  ∃ chunks, chunks.flatten = body ∧ frames = deliver headers chunks trailers

/-! ## §2. Filters. -/

theorem copy_eq (bytes : List UInt8) : id bytes = bytes := rfl

/-- What the filters answer, by their index, while one event is processed; and
`Clone` of the proxy's buffer pool, which is not of the repository and of which
only the law is assumed. -/
structure Decisions where
  headers : Nat → FilterHeadersStatus := fun _ => .continue_
  data : Nat → FilterDataStatus := fun _ => .continue_
  trailers : Nat → FilterTrailersStatus := fun _ => .continue_
  clone : List UInt8 → List UInt8 := id
  clone_eq : ∀ bytes, clone bytes = bytes := by exact Mosn.Proxy.Filters.copy_eq

/-- `activeStreamFilter`.  The last field is not the proxy's: the filter has
stopped something and not continued since. -/
structure ActiveFilter where
  stopped : Bool := false
  stoppedNoBuf : Bool := false
  headersContinued : Bool := false
  waits : Bool := false
  deriving DecidableEq, Repr

/-- The filters of one chain, and whether any of them ever stopped. -/
structure Chain where
  count : Nat
  filter : Nat → ActiveFilter := fun _ => {}
  everStopped : Bool := false

namespace Chain

def modify (c : Chain) (index : Nat) (f : ActiveFilter → ActiveFilter) : Chain :=
  { c with filter := Function.update c.filter index (f (c.filter index)) }

/-- The filter answers that it stops. -/
def stop (c : Chain) (index : Nat) : Chain :=
  { c.modify index fun f => { f with stopped := true, waits := true } with everStopped := true }

/-- It stops at trailers: the flag is not set. -/
def stopTrailers (c : Chain) (index : Nat) : Chain :=
  { c.modify index fun f => { f with waits := true } with everStopped := true }

def stopNoBuf (c : Chain) (index : Nat) : Chain :=
  { c.modify index fun f => { f with stopped := true, stoppedNoBuf := true, waits := true } with
    everStopped := true }

/-- `f.headersContinued = true`. -/
def continueHeaders (c : Chain) (index : Nat) : Chain :=
  c.modify index fun f => { f with headersContinued := true }

/-- The first assignment of `doContinue`. -/
def resume (c : Chain) (index : Nat) : Chain :=
  c.modify index fun f => { f with stopped := false, waits := false }

section Filter

variable (c : Chain) (index i : Nat)

theorem filter_modify (f : ActiveFilter → ActiveFilter) :
    (c.modify index f).filter i = if i = index then f (c.filter index) else c.filter i :=
  Function.update_apply ..

theorem filter_stop : (c.stop index).filter i
    = if i = index then { c.filter index with stopped := true, waits := true }
      else c.filter i := Function.update_apply ..

theorem filter_continueHeaders : (c.continueHeaders index).filter i
    = if i = index then { c.filter index with headersContinued := true } else c.filter i :=
  filter_modify ..

theorem filter_resume : (c.resume index).filter i
    = if i = index then { c.filter index with stopped := false, waits := false }
      else c.filter i := filter_modify ..

theorem waits_stop : ((c.stop index).filter index).waits = true := by
  rw [filter_stop, if_pos rfl]

theorem waits_stopNoBuf : ((c.stopNoBuf index).filter index).waits = true := by
  rw [show (c.stopNoBuf index).filter index = _ from Function.update_self ..]

theorem waits_stopTrailers : ((c.stopTrailers index).filter index).waits = true := by
  rw [show (c.stopTrailers index).filter index = _ from Function.update_self ..]

end Filter

end Chain

/-- The result of a loop over the headers: the chain, the filters that were
asked, and whether one of them stopped. -/
structure HeadersPass where
  chain : Chain
  asked : List Nat
  stopped : Bool

/-- `runReceiveHeadersFilters` and `runAppendHeaderFilters`, from an index
on. -/
def runHeadersFilters (status : Nat → FilterHeadersStatus) (chain : Chain) (index : Nat) :
    HeadersPass :=
  if index < chain.count then
    match status index with
    | .stopIteration => ⟨chain.stop index, [index], true⟩
    -- the loop returns here, it does not go on with the next filter
    | .continue_ => ⟨chain.continueHeaders index, [index], false⟩
  else ⟨chain, [], false⟩

/-- A filter is asked about headers, or they have passed the chain. -/
inductive HeaderCall where
  | filter (index : Nat)
  | passed
  deriving DecidableEq, Repr

/-! ## §3. The buffer of the stream. -/

/-- The buffers there are, by their address, and the one that the stream
has. -/
structure Buffers where
  heap : List (List UInt8) := []
  current : Option Nat := none

namespace Buffers

def bytes (b : Buffers) (buf : Nat) : List UInt8 := b.heap.getD buf []

/-- A new buffer, which the stream has from now on. -/
def assign (b : Buffers) (bytes : List UInt8) : Buffers :=
  { heap := b.heap ++ [bytes], current := some b.heap.length }

/-- `handleBufferData`; `ReadFrom` takes the bytes out of the buffer it
reads. -/
def handleBufferData (b : Buffers) (buf : Nat) : Buffers :=
  if b.current = some buf then b
  else
    let b := if b.current.isNone then b.assign [] else b
    let own := b.current.getD 0
    { b with heap := (b.heap.set own (b.bytes own ++ b.bytes buf)).set buf [] }

/-- `Reset`. -/
def reset (b : Buffers) (buf : Nat) : Buffers := { b with heap := b.heap.set buf [] }

theorem bytes_assign (b : Buffers) (bytes : List UInt8) :
    (b.assign bytes).bytes b.heap.length = bytes := by
  unfold Buffers.bytes assign
  rw [List.getD_eq_getElem?_getD, List.getElem?_append_right (Nat.le_refl _), Nat.sub_self]
  rfl

theorem handleBufferData_self {b : Buffers} {buf : Nat} (h : b.current = some buf) :
    b.handleBufferData buf = b := if_pos h

end Buffers

end Mosn.Proxy.Filters
