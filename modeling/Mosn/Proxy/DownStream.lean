/-
  Mosn.Proxy.DownStream
  **THE LIFE OF A DOWNSTREAM STREAM** (`pkg/proxy/downstream.go`,
  `upstream.go`, `event.go`, `streamfilters.go`, `retrystate.go`, `util.go`,
  `proxy.go`).

  A request on its way through the proxy is a `downStream`.  Its methods are
  called from three sides:

    • by the dispatcher of a worker, which takes the stream's events from a
      control and a job channel and keeps one flag per stream id: whether the
      stream is done,
    • by goroutines of timers and of filters that have held the request,
    • by the read loop of its connection (decode errors).

  `step` lets them take turns in every order.  One call is one step; what a
  call is told by the routers, the cluster, the connection pool and the
  stream's filters is part of the action.

  The bodies of messages are not modelled, only that there is one; replies
  are `Mosn.Proxy.LocalReply`.  Nothing in the repository adds a sender
  filter, so `senderFilters` is empty and left out.
-/
import Mosn.Lib.Loop
import Mosn.Lib.Transition
import Mosn.Proxy.Event

namespace Mosn.Proxy.Lifecycle

open Mosn.Lib Mosn.Types

/-! ## §1. What a call is told. -/

inductive FilterHeadersStatus where
  | continue_
  | stopIteration
  deriving Repr, DecidableEq

inductive FilterDataStatus where
  | continue_
  | stopIterationAndBuffer
  | stopIterationAndWatermark
  | stopIterationNoBuffer
  deriving Repr, DecidableEq

inductive FilterTrailersStatus where
  | continue_
  | stopIteration
  deriving Repr, DecidableEq

/-- What a receiver filter can do to its stream during a call, through
`StreamReceiverFilterCallbacks`. -/
inductive FilterReply where
  | appendHeaders (endStream : Bool)
  | appendData (endStream : Bool)
  | appendTrailers
  | resetStream
  deriving Repr, DecidableEq

/-- A call of a receiver filter: what it does, whether it has started a
goroutine that will call `ContinueDecoding`, what it returns. -/
structure FilterCall (σ : Type) where
  replies : List FilterReply
  continues : Bool
  status : σ

structure Timeout where
  globalTimeout : Int
  tryTimeout : Int
  deriving Repr, DecidableEq

/-- A route with a rule: what `parseProxyTimeout` makes of it and of the
headers, and its retry policy. -/
structure Route where
  timeout : Timeout
  retryOn : Bool
  numRetries : Nat
  deriving Repr, DecidableEq

inductive PoolFailureReason where
  | overflow
  | connectionFailure
  deriving Repr, DecidableEq

/-- `OnFailure`'s switch. -/
def PoolFailureReason.resetReason : PoolFailureReason → StreamResetReason
  | .overflow => .overflow
  | .connectionFailure => .connectionFailed

/-- The counters and gauges of `ClusterStats`. -/
inductive ClusterStat where
  | upstreamConnectionTotal
  | upstreamConnectionClose
  | upstreamConnectionActive
  | upstreamConnectionTotalHTTP1
  | upstreamConnectionTotalHTTP2
  | upstreamConnectionTotalSofaRPC
  | upstreamConnectionConFail
  | upstreamConnectionRetry
  | upstreamConnectionLocalClose
  | upstreamConnectionRemoteClose
  | upstreamConnectionLocalCloseWithActiveRequest
  | upstreamConnectionRemoteCloseWithActiveRequest
  | upstreamConnectionCloseNotify
  | upstreamBytesRead
  | upstreamBytesReadCurrent
  | upstreamBytesWrite
  | upstreamBytesWriteCurrent
  | upstreamRequestTotal
  | upstreamRequestActive
  | upstreamRequestLocalReset
  | upstreamRequestRemoteReset
  | upstreamRequestRetry
  | upstreamRequestRetryOverflow
  | upstreamRequestTimeout
  | upstreamRequestFailureEject
  | upstreamRequestPendingOverflow
  | lbSubSetsFallBack
  | lbSubSetsActive
  | lbSubsetsCreated
  | lbSubsetsRemoved
  deriving Repr, DecidableEq

/-- `ClusterStats`: which of them are not nil. -/
abbrev ClusterStats := ClusterStat → Bool

/-- `Thresholds` of `CircuitBreakers`. -/
structure Thresholds where
  maxConnections : UInt32
  maxPendingRequests : UInt32
  maxRequests : UInt32
  maxRetries : UInt32
  deriving Repr, DecidableEq

/-- The part of a cluster's configuration that its limits are made from. -/
structure ClusterConfig where
  thresholds : List Thresholds
  deriving Repr, DecidableEq

/-- `newClusterStats`: the fields that it sets. -/
def newClusterStats (_config : ClusterConfig) : ClusterStats := fun stat =>
  decide (stat ∈ [.upstreamConnectionTotal, .upstreamConnectionClose, .upstreamConnectionActive,
    .upstreamConnectionTotalHTTP1, .upstreamConnectionTotalHTTP2, .upstreamConnectionTotalSofaRPC,
    .upstreamConnectionConFail, .upstreamConnectionRetry, .upstreamConnectionLocalClose,
    .upstreamConnectionRemoteClose, .upstreamConnectionLocalCloseWithActiveRequest,
    .upstreamConnectionRemoteCloseWithActiveRequest, .upstreamConnectionCloseNotify,
    .upstreamBytesRead, .upstreamBytesReadCurrent, .upstreamBytesWrite, .upstreamBytesWriteCurrent,
    .upstreamRequestTotal, .upstreamRequestActive, .upstreamRequestLocalReset,
    .upstreamRequestRemoteReset, .upstreamRequestTimeout, .upstreamRequestFailureEject,
    .upstreamRequestPendingOverflow, .lbSubSetsFallBack, .lbSubSetsActive, .lbSubsetsCreated,
    ClusterStat.lbSubsetsRemoved])

/-- `Inc` of one of the counters. -/
def ClusterStats.inc (stats : ClusterStats) (stat : ClusterStat) : Except Panic Unit :=
  if stats stat then .ok () else .error .nilDereference

/-- What a stream is told while one of its methods runs.  The pools of the
repository answer `NewStream` at once: `OnReady` (`none`) or `OnFailure`.  The
statistics of a cluster are those of `newClusterStats`, or others. -/
structure Answers where
  onDecodeHeaders : Nat → FilterCall FilterHeadersStatus := fun _ => ⟨[], false, .continue_⟩
  onDecodeData : Nat → FilterCall FilterDataStatus := fun _ => ⟨[], false, .continue_⟩
  onDecodeTrailers : Nat → FilterCall FilterTrailersStatus := fun _ => ⟨[], false, .continue_⟩
  route : Option Route := none
  clusterSnapshot : Bool := true
  connPool : Bool := true
  newStream : Option PoolFailureReason := none
  retriesCanCreate : Bool := false
  stats : ClusterStats := newClusterStats ⟨[]⟩

/-! ## §2. The stream. -/

/-- `upstreamRequest`; `requestSender` says that the field is not nil. -/
structure UpstreamRequest where
  requestSender : Bool
  sendComplete : Bool
  dataSent : Bool
  trailerSent : Bool
  deriving Repr, DecidableEq

/-- `requestSender = nil`. -/
def UpstreamRequest.dropSender (r : UpstreamRequest) : UpstreamRequest :=
  { r with requestSender := false }

/-- `retryState`; `retryFunc` says that the field is not nil. -/
structure RetryState where
  retryOn : Bool
  retiesRemaining : Nat
  retryFunc : Bool
  deriving Repr, DecidableEq

/-- `activeStreamReceiverFilter`; `destroyed` says that the filter's
`OnDestroy` was called. -/
structure ReceiverFilter where
  stopped : Bool := false
  stoppedNoBuf : Bool := false
  headersContinued : Bool := false
  destroyed : Bool := false
  deriving Repr, DecidableEq

/-- `OnDestroy`. -/
def ReceiverFilter.onDestroy (f : ReceiverFilter) : ReceiverFilter := { f with destroyed := true }

inductive TimerCallback where
  | onResponseTimeout
  | onPerReqTimeout
  | doRetry
  deriving Repr, DecidableEq

/-- The goroutine of a timer; `stopping` says that there is something in its
stop channel. -/
structure Timer where
  id : Nat
  callback : TimerCallback
  stopping : Bool
  deriving Repr, DecidableEq

/-- The dispatcher's flag for a stream id.  `own` records who has put it
there: another stream can have the same id. -/
structure Entry where
  done : Bool
  own : Bool
  deriving Repr, DecidableEq

/-- What was given to the response sender; `code` is the status of a local
reply. -/
inductive Sent where
  | headers (code : Option Int) (endStream : Bool)
  | data (endStream : Bool)
  | trailers
  deriving Repr, DecidableEq

/-- `downStream`, and what there is of it elsewhere. -/
structure DownStream where
  streamID : GoString
  upstreamRequest : Option UpstreamRequest := none
  timeout : Timeout := ⟨0, 0⟩
  retryState : Option RetryState := none
  perRetryTimer : Option Nat := none
  responseTimer : Option Nat := none
  /-- The map, the buffer, the map is not nil. -/
  downstreamReqHeaders : Bool := false
  downstreamReqDataBuf : Bool := false
  downstreamReqTrailers : Bool := false
  downstreamResponseStarted : Bool := false
  downstreamRecvDone : Bool := false
  upstreamRequestSent : Bool := false
  upstreamProcessDone : Bool := false
  downstreamReset : Bool := false
  downstreamCleaned : Bool := false
  upstreamReset : Bool := false
  receiverFilters : List ReceiverFilter := []
  /-- Its share of the gauges `DownstreamRequestActive` of the proxy and of
  the listener. -/
  requestActive : Int := 0
  /-- It is in the proxy's list of active streams. -/
  listed : Bool := false
  timers : List Timer := []
  nextTimer : Nat := 0
  /-- The filters with a goroutine that will call `ContinueDecoding`. -/
  continuations : List Nat := []
  ctrlChan : List (Event Unit) := []
  jobChan : List (Event Unit) := []
  /-- The dispatcher has seen the control channel empty since its last event. -/
  polled : Bool := false
  entry : Option Entry := none
  sent : List Sent := []
  /-- How often the stream to the upstream was reset. -/
  upstreamResets : Nat := 0
  /-- How many upstream requests there were. -/
  upstreamRequests : Nat := 0
  /-- The pool of header maps was given the request's, and how often a reply was
  written to it afterwards. -/
  recycled : Bool := false
  recycledWrites : Nat := 0

/-- What the routers, pools and filters answer may depend on everything. -/
abbrev Ask := DownStream → Answers

inductive RetryCheckStatus where
  | shouldRetry
  | noRetry
  | retryOverflow
  deriving Repr, DecidableEq

namespace RetryState

/-- `newRetryState`. -/
def new (route : Route) : RetryState where
  retryOn := route.retryOn
  retiesRemaining := if route.numRetries > 3 then route.numRetries else 3
  retryFunc := false

/-- `reset`.  The timer of a retry is not stopped. -/
def reset (r : RetryState) : RetryState := { r with retryFunc := false }

/-- `doRetryCheck`. -/
def doRetryCheck (r : RetryState) (headers : HeaderMap) (reason : Option StreamResetReason) :
    Bool :=
  if reason = some .overflow then false
  else if r.retryOn then
    match headers.lookup headerStatus with
    | some code => decide (500 ≤ (Strconv.atoi code).1)
    | none => false
  else false

/-- `shouldRetry`.  `CanCreate` is read as an overflow. -/
def shouldRetry (r : RetryState) (headers : HeaderMap) (reason : Option StreamResetReason)
    (canCreate : Bool) : RetryCheckStatus × RetryState :=
  if r.retiesRemaining = 0 then (.noRetry, r)
  else
    let r := { r with retiesRemaining := r.retiesRemaining - 1 }
    if !r.doRetryCheck headers reason then (.noRetry, r)
    else if canCreate then (.retryOverflow, r)
    else (.shouldRetry, r)

end RetryState

namespace DownStream

/-! ## §3. Events, timers, the end of a stream. -/

/-- `workerPool.Offer`. -/
def offer (s : DownStream) (direction : Direction) (body : EventBody) : DownStream :=
  let e : Event Unit := ⟨direction, s.streamID, (), body⟩
  match e.type with
  | .control => { s with ctrlChan := s.ctrlChan ++ [e] }
  | .normal => { s with jobChan := s.jobChan ++ [e] }

/-- `OnResetStream` of the stream. -/
def onResetStream (s : DownStream) (reason : StreamResetReason) : DownStream :=
  s.offer .downstream (.reset reason)

/-- `OnResetStream` of its upstream request. -/
def upstreamOnResetStream (s : DownStream) (reason : StreamResetReason) : DownStream :=
  s.offer .upstream (.reset reason)

/-- `newTimer` and `start`. -/
def startTimer (s : DownStream) (callback : TimerCallback) : DownStream :=
  { s with
    timers := s.timers ++ [⟨s.nextTimer, callback, false⟩]
    nextTimer := s.nextTimer + 1 }

/-- `stop`; a timer that has fired is not there any more. -/
def stopTimer (s : DownStream) : Option Nat → DownStream
  | none => s
  | some id =>
    { s with
      timers := s.timers.map fun t => if t.id = id then { t with stopping := true } else t }

/-- `upstreamRequest.resetStream`: the upstream's stream is reset, and will not
call back. -/
def upstreamResetStream (s : DownStream) : DownStream :=
  match s.upstreamRequest with
  | some r => if r.requestSender then { s with upstreamResets := s.upstreamResets + 1 } else s
  | none => s

/-- `cleanUp`. -/
def cleanUp (s : DownStream) : DownStream :=
  let s := { s with
    upstreamRequest := s.upstreamRequest.map UpstreamRequest.dropSender
    retryState := s.retryState.map RetryState.reset }
  let s := { s.stopTimer s.perRetryTimer with perRetryTimer := none }
  { s.stopTimer s.responseTimer with responseTimer := none }

/-- `deleteActiveStream`. -/
def deleteActiveStream (s : DownStream) : DownStream :=
  { s with listed := false, recycled := s.recycled || s.downstreamReqHeaders }

/-- `cleanStream`. -/
def cleanStream (s : DownStream) : DownStream :=
  if s.downstreamCleaned then s
  else
    let s := ({ s with downstreamCleaned := true }).upstreamResetStream.cleanUp
    let s := { s with
      receiverFilters := s.receiverFilters.map ReceiverFilter.onDestroy
      requestActive := s.requestActive - 1 }
    (s.offer .downstream .stop).deleteActiveStream

/-- `endStream`; also the unexported `resetStream`.  To reset the response
sender's stream is to call `OnResetStream`, its only listener. -/
def endStream (s : DownStream) : DownStream :=
  if !s.downstreamRecvDone || !s.upstreamProcessDone then
    ({ s with upstreamProcessDone := true }).onResetStream .localReset
  else s.cleanStream

/-- `ResetStream`. -/
def resetStream (s : DownStream) : DownStream :=
  if s.downstreamReset then s else ({ s with downstreamReset := true }).cleanStream

/-! ## §4. Towards the client. -/

/-- `doAppendHeaders`; `code` is the status of a local reply. -/
def doAppendHeaders (s : DownStream) (code : Option Int) (endStream : Bool) : DownStream :=
  let s := { s with sent := s.sent ++ [.headers code endStream] }
  if endStream then s.endStream else s

/-- `appendHeaders`. -/
def appendHeaders (s : DownStream) (code : Option Int) (endStream : Bool) : DownStream :=
  ({ s with upstreamProcessDone := endStream }).doAppendHeaders code endStream

/-- `doAppendData`. -/
def doAppendData (s : DownStream) (endStream : Bool) : DownStream :=
  let s := { s with sent := s.sent ++ [.data endStream] }
  if endStream then s.endStream else s

/-- `appendData`. -/
def appendData (s : DownStream) (endStream : Bool) : DownStream :=
  ({ s with upstreamProcessDone := endStream }).doAppendData endStream

/-- `doAppendTrailers`. -/
def doAppendTrailers (s : DownStream) : DownStream :=
  ({ s with sent := s.sent ++ [Sent.trailers] }).endStream

/-- `appendTrailers`. -/
def appendTrailers (s : DownStream) : DownStream :=
  ({ s with upstreamProcessDone := true }).doAppendTrailers

/-- `sendHijackReply`. -/
def sendHijackReply (s : DownStream) (code : Int) : DownStream := s.appendHeaders (some code) true

/-- `sendHijackReply` with the headers of the request, which it writes to. -/
def hijackRequest (s : DownStream) (code : Int) : DownStream :=
  ({ s with recycledWrites := if s.recycled then s.recycledWrites + 1 else s.recycledWrites
    }).sendHijackReply code

/-- `OnDecodeError`, called by the connection and not by the dispatcher. -/
def onDecodeError (s : DownStream) (err : GoError) : DownStream :=
  if s.upstreamProcessDone then s
  else
    let code := if err.text = codecException then codecExceptionCode
      else if err.text = deserializeException then deserialExceptionCode
      else unknownCode
    (s.sendHijackReply code).onResetStream .localReset

/-! ## §5. Towards the upstream. -/

/-- `setupPerReqTimeout`. -/
def setupPerReqTimeout (s : DownStream) : DownStream :=
  if s.timeout.tryTimeout > 0 then
    let s := s.stopTimer s.perRetryTimer
    { s.startTimer .onPerReqTimeout with perRetryTimer := some s.nextTimer }
  else s

/-- The same for the global timeout, in `onUpstreamRequestSent`. -/
def setupGlobalTimeout (s : DownStream) : DownStream :=
  if s.timeout.globalTimeout > 0 then
    let s := s.stopTimer s.responseTimer
    { s.startTimer .onResponseTimeout with responseTimer := some s.nextTimer }
  else s

/-- `onUpstreamRequestSent`. -/
def onUpstreamRequestSent (s : DownStream) : DownStream :=
  let s := { s with upstreamRequestSent := true }
  if s.upstreamRequest.isSome then s.setupPerReqTimeout.setupGlobalTimeout else s

/-- `initializeUpstreamConnectionPool`: whether there is a pool; if not, the
client has been told. -/
def initializeUpstreamConnectionPool (s : DownStream) (ask : Ask) : Bool × DownStream :=
  if !(ask s).clusterSnapshot then (false, s.hijackRequest routerUnavailableCode)
  else if !(ask s).connPool then (false, s.hijackRequest noHealthUpstreamCode)
  else (true, s)

/-- A new `upstreamRequest` and its `appendHeaders`. -/
def newUpstreamRequest (s : DownStream) (ask : Ask) (endStream : Bool) : DownStream :=
  let r : UpstreamRequest := ⟨false, endStream, false, false⟩
  let s := { s with upstreamRequests := s.upstreamRequests + 1 }
  match (ask s).newStream with
  | none => { s with upstreamRequest := some { r with requestSender := true } }
  | some reason =>
    ({ s with upstreamRequest := some r }).upstreamOnResetStream reason.resetReason

/-- `upstreamRequest.appendData`. -/
def upstreamAppendData (s : DownStream) (endStream : Bool) : Except Panic DownStream :=
  match s.upstreamRequest with
  | some r =>
    if r.requestSender then
      .ok { s with
        upstreamRequest := some { r with sendComplete := endStream, dataSent := true } }
    else .error .nilDereference
  | none => .error .nilDereference

/-- `upstreamRequest.appendTrailers`. -/
def upstreamAppendTrailers (s : DownStream) : Except Panic DownStream :=
  match s.upstreamRequest with
  | some r =>
    if r.requestSender then
      .ok { s with
        upstreamRequest := some { r with sendComplete := true, trailerSent := true } }
    else .error .nilDereference
  | none => .error .nilDereference

/-- `retryState.retry` and, when it says so, `scheduleRetry`.  Either counter may
be nil. -/
def retry (s : DownStream) (ask : Ask) (r : RetryState) (headers : HeaderMap)
    (reason : Option StreamResetReason) : Except Panic (RetryCheckStatus × DownStream) :=
  let (check, r) := r.reset.shouldRetry headers reason (ask s).retriesCanCreate
  match check with
  | .shouldRetry => do
      (ask s).stats.inc .upstreamRequestRetry
      return (check, { s.startTimer .doRetry with retryState := some { r with retryFunc := true } })
  | .retryOverflow => do
      (ask s).stats.inc .upstreamRequestRetryOverflow
      return (check, { s with retryState := some r })
  | .noRetry => return (check, { s with retryState := some r })

/-- `setupRetry`. -/
def setupRetry (s : DownStream) (endStream : Bool) : Except Panic (Bool × DownStream) :=
  if !s.upstreamRequestSent then .ok (false, s)
  else
    let s := if !endStream then s.upstreamResetStream else s
    match s.upstreamRequest with
    | some r =>
      let s := { s with upstreamRequest := some r.dropSender }
      .ok (true, { s.stopTimer s.perRetryTimer with perRetryTimer := none })
    | none => .error .nilDereference

/-- Whether a retry is under way after `retry`. -/
def retrying (s : DownStream) (ask : Ask) (r : RetryState) (headers : HeaderMap)
    (reason : Option StreamResetReason) (endStream : Bool) : Except Panic (Bool × DownStream) := do
  let (check, s) ← s.retry ask r headers reason
  if check = .shouldRetry then s.setupRetry endStream else return (false, s)

/-- `UpstreamReset`, `UpstreamGlobalTimeout`, `UpstreamPerTryTimeout`. -/
inductive UpstreamResetType where
  | upstreamReset
  | upstreamGlobalTimeout
  | upstreamPerTryTimeout
  deriving Repr, DecidableEq

/-- The end of `onUpstreamReset`, when there is no retry. -/
def giveUp (s : DownStream) (urtype : UpstreamResetType) : DownStream :=
  let s := s.cleanUp
  if s.downstreamResponseStarted then s.endStream
  else s.hijackRequest
    (if urtype = .upstreamReset then noHealthUpstreamCode else timeoutExceptionCode)

/-- `onUpstreamReset`. -/
def onUpstreamReset (s : DownStream) (ask : Ask) (urtype : UpstreamResetType)
    (reason : StreamResetReason) : Except Panic DownStream :=
  if s.upstreamReset then .ok s
  else
    let s := { s with upstreamReset := true }
    match s.retryState with
    | some r =>
      if urtype ≠ .upstreamGlobalTimeout ∧ s.downstreamResponseStarted = true then do
        let (again, s) ← s.retrying ask r ∅ (some reason) true
        if again then return s else return s.giveUp urtype
      else .ok (s.giveUp urtype)
    | none => .ok (s.giveUp urtype)

/-- `onUpstreamResponseRecvFinished`. -/
def onUpstreamResponseRecvFinished (s : DownStream) : DownStream :=
  (if !s.upstreamRequestSent then s.upstreamResetStream else s).cleanUp

/-- The part of `onUpstreamHeaders` after the check for a retry. -/
def forwardHeaders (s : DownStream) (endStream : Bool) : DownStream :=
  let s := { s with downstreamResponseStarted := true }
  let s := if endStream then s.onUpstreamResponseRecvFinished else s
  s.appendHeaders none endStream

/-- `onUpstreamHeaders`. -/
def onUpstreamHeaders (s : DownStream) (ask : Ask) (headers : HeaderMap) (endStream : Bool) :
    Except Panic DownStream :=
  match s.retryState with
  | some r => do
      let (again, s) ← s.retrying ask r headers none endStream
      if again then return s
      else
        let s := { s with retryState := s.retryState.map RetryState.reset }
        return s.forwardHeaders endStream
  | none => .ok (s.forwardHeaders endStream)

/-- `onUpstreamData`. -/
def onUpstreamData (s : DownStream) (endStream : Bool) : DownStream :=
  (if endStream then s.onUpstreamResponseRecvFinished else s).appendData endStream

/-- `onUpstreamTrailers`. -/
def onUpstreamTrailers (s : DownStream) : DownStream :=
  s.onUpstreamResponseRecvFinished.appendTrailers

/-- In `doRetry`, the buffered data is sent again. -/
def resendData (s : DownStream) : Except Panic DownStream :=
  if s.downstreamReqDataBuf then s.upstreamAppendData !s.downstreamReqTrailers else .ok s

/-- In `doRetry`, the trailers are sent again. -/
def resendTrailers (s : DownStream) : Except Panic DownStream :=
  if s.downstreamReqTrailers then s.upstreamAppendTrailers else .ok s

/-- `doRetry`. -/
def doRetry (s : DownStream) (ask : Ask) : Except Panic DownStream :=
  let (found, s) := s.initializeUpstreamConnectionPool ask
  if !found then .ok (s.hijackRequest noHealthUpstreamCode).cleanUp
  else do
    let s := s.newUpstreamRequest ask (s.downstreamReqDataBuf && s.downstreamReqTrailers)
    let s ← s.resendData
    let s ← s.resendTrailers
    return s.setupPerReqTimeout

/-- `onResponseTimeout`. -/
def onResponseTimeout (s : DownStream) (ask : Ask) : Except Panic DownStream :=
  ({ s with responseTimer := none }).upstreamResetStream.onUpstreamReset ask
    .upstreamGlobalTimeout .localReset

/-- `onPerReqTimeout`. -/
def onPerReqTimeout (s : DownStream) (ask : Ask) : Except Panic DownStream :=
  if s.downstreamResponseStarted then .ok s
  else if s.upstreamRequest.isNone then .error .nilDereference
  else
    ({ s with perRetryTimer := none }).upstreamResetStream.onUpstreamReset ask
      .upstreamPerTryTimeout .localReset

/-! ## §6. Receiving the request, through the filters. -/

/-- A reply of a receiver filter. -/
def reply (s : DownStream) : FilterReply → DownStream
  | .appendHeaders endStream => s.doAppendHeaders none endStream
  | .appendData endStream => s.doAppendData endStream
  | .appendTrailers => s.doAppendTrailers
  | .resetStream => s.endStream

/-- What the call of filter `i` does. -/
def called {σ : Type} (s : DownStream) (i : Nat) (call : FilterCall σ) : DownStream :=
  let s := call.replies.foldl reply s
  if call.continues then { s with continuations := s.continuations ++ [i] } else s

/-- The state of filter `i` changes. -/
def modifyFilter (s : DownStream) (i : Nat) (f : ReceiverFilter → ReceiverFilter) : DownStream :=
  { s with receiverFilters := s.receiverFilters.modify i f }

def filter (s : DownStream) (i : Nat) : ReceiverFilter := (s.receiverFilters[i]?).getD {}

/-- `runReceiveHeadersFilters` from filter `index` on: whether it stops.  The
loop returns after its first filter. -/
def runReceiveHeadersFilters (s : DownStream) (ask : Ask) (index : Nat) : Bool × DownStream :=
  if index < s.receiverFilters.length then
    let call := (ask s).onDecodeHeaders index
    let s := s.called index call
    match call.status with
    | .stopIteration => (true, s.modifyFilter index fun f => { f with stopped := true })
    | .continue_ => (false, s.modifyFilter index fun f => { f with headersContinued := true })
  else (false, s)

/-- How the loop over the filters of data or trailers ends. -/
inductive Ran where
  /-- A filter has stopped it. -/
  | stopped (s : DownStream)
  /-- No filter has. -/
  | passed (s : DownStream)
  /-- Filter `index`, with `behind` filters behind it, had stopped before and
  continues: its `doContinue` is called, and the loop is over. -/
  | resumed (index behind : Nat) (s : DownStream)

/-- The loop of `runReceiveDataFilters` over `behind` filters from `index`
on. -/
def receiveDataFilters (ask : Ask) : (behind index : Nat) → DownStream → Ran
  | 0, _, s => .passed s
  | behind + 1, index, s =>
    let call := (ask s).onDecodeData index
    let s := s.called index call
    match call.status with
    | .continue_ =>
      if (s.filter index).stopped then
        .resumed index behind { s with downstreamReqDataBuf := true }
      else receiveDataFilters ask behind (index + 1) s
    | .stopIterationNoBuffer =>
      .stopped (s.modifyFilter index fun f => { f with stopped := true, stoppedNoBuf := true })
    | _ =>
      .stopped { s.modifyFilter index (fun f => { f with stopped := true }) with
        downstreamReqDataBuf := true }

/-- The loop of `runReceiveTrailersFilters`. -/
def receiveTrailersFilters (ask : Ask) : (behind index : Nat) → DownStream → Ran
  | 0, _, s => .passed s
  | behind + 1, index, s =>
    let call := (ask s).onDecodeTrailers index
    let s := s.called index call
    match call.status with
    | .continue_ =>
      if (s.filter index).stopped then .resumed index behind s
      else receiveTrailersFilters ask behind (index + 1) s
    | .stopIteration => .stopped s

/-- `doReceiveHeaders`, with the filters from `index` on. -/
def doReceiveHeaders (s : DownStream) (ask : Ask) (index : Nat) (endStream : Bool) : DownStream :=
  let (stopped, s) := s.runReceiveHeadersFilters ask index
  if stopped then s
  else
    match (ask s).route with
    | none => s.hijackRequest routerUnavailableCode
    | some route =>
      let (found, s) := s.initializeUpstreamConnectionPool ask
      if !found then s
      else
        let s := { s with timeout := route.timeout, retryState := some (RetryState.new route) }
        let s := s.newUpstreamRequest ask endStream
        if endStream then s.onUpstreamRequestSent else s

/-- The end of `doReceiveData`, when no filter has stopped it. -/
def forwardData (s : DownStream) (endStream : Bool) : Except Panic DownStream := do
  let s := if endStream then s.onUpstreamRequestSent else s
  let s ← s.upstreamAppendData endStream
  return if s.upstreamProcessDone then s.cleanStream else s

/-- The end of `doReceiveTrailers`, when no filter has stopped it. -/
def forwardTrailers (s : DownStream) : Except Panic DownStream := do
  let s := ({ s with downstreamReqTrailers := true }).onUpstreamRequestSent
  let s ← s.upstreamAppendTrailers
  return if s.upstreamProcessDone then s.cleanStream else s

section Chain

-- `doContinue` of the filter `index` with `behind` filters behind it
variable (continueAt : (behind index : Nat) → DownStream → Except Panic DownStream)

/-- Goes on after the loop over the filters. -/
def Ran.andThen (ran : Ran) (forward : DownStream → Except Panic DownStream) :
    Except Panic DownStream :=
  match ran with
  | .stopped s => .ok s
  | .passed s => forward s
  | .resumed index behind s => do
      let s ← continueAt behind index s
      forward s

/-- `doReceiveData`, with the `behind` filters from `index` on. -/
def doReceiveData (s : DownStream) (ask : Ask) (behind index : Nat) (endStream : Bool) :
    Except Panic DownStream :=
  let ran := if s.upstreamProcessDone then Ran.passed s else receiveDataFilters ask behind index s
  ran.andThen continueAt fun s => s.forwardData endStream

/-- `doReceiveTrailers`, with the `behind` filters from `index` on. -/
def doReceiveTrailers (s : DownStream) (ask : Ask) (behind index : Nat) : Except Panic DownStream :=
  let ran := if s.upstreamProcessDone then Ran.passed s
    else receiveTrailersFilters ask behind index s
  ran.andThen continueAt forwardTrailers

end Chain

/-- The headers part of `doContinue`: they go on if the filter has held them. -/
def continueHeaders (s : DownStream) (ask : Ask) (index : Nat) : DownStream :=
  if (s.filter index).headersContinued then s
  else
    (s.modifyFilter index fun f => { f with headersContinued := true }).doReceiveHeaders ask
      (index + 1) (s.downstreamRecvDone && !s.downstreamReqDataBuf && !s.downstreamReqTrailers)

section Chain

variable (continueAt : (behind index : Nat) → DownStream → Except Panic DownStream)

/-- The data part; `hasBuffedData` and `hasTrailer` were read before the
headers went on. -/
def continueData (s : DownStream) (ask : Ask) (behind index : Nat)
    (hasBuffedData hasTrailer : Bool) : Except Panic DownStream :=
  if hasBuffedData || (s.filter index).stoppedNoBuf then
    ({ s with downstreamReqDataBuf := true }).doReceiveData continueAt ask behind (index + 1)
      (s.downstreamRecvDone && !hasTrailer)
  else .ok s

/-- The trailers part. -/
def continueTrailers (s : DownStream) (ask : Ask) (behind index : Nat) (hasTrailer : Bool) :
    Except Panic DownStream :=
  if hasTrailer then s.doReceiveTrailers continueAt ask behind (index + 1) else .ok s

end Chain

/-- `doContinue` of the filter `index` with `behind` filters behind it. -/
def doContinue (ask : Ask) (behind index : Nat) (s : DownStream) : Except Panic DownStream :=
  if s.upstreamProcessDone then .ok s
  else do
    let continueAt := fun behind' index' s =>
      if _h : behind' < behind then doContinue ask behind' index' s else .ok s
    let s := s.modifyFilter index fun f => { f with stopped := false }
    let t ← (s.continueHeaders ask index).continueData continueAt ask behind index
      s.downstreamReqDataBuf s.downstreamReqTrailers
    t.continueTrailers continueAt ask behind index s.downstreamReqTrailers
termination_by behind

/-- `ReceiveHeaders`. -/
def receiveHeaders (s : DownStream) (ask : Ask) (endStream : Bool) : DownStream :=
  ({ s with downstreamRecvDone := endStream, downstreamReqHeaders := true }).doReceiveHeaders ask 0
    endStream

/-- `ReceiveData`. -/
def receiveData (s : DownStream) (ask : Ask) (endStream : Bool) : Except Panic DownStream :=
  if s.upstreamProcessDone then .ok s
  else
    ({ s with downstreamRecvDone := endStream }).doReceiveData (doContinue ask) ask
      s.receiverFilters.length 0 endStream

/-- `ReceiveTrailers`. -/
def receiveTrailers (s : DownStream) (ask : Ask) : Except Panic DownStream :=
  if s.upstreamProcessDone then .ok s
  else
    ({ s with downstreamRecvDone := true }).doReceiveTrailers (doContinue ask) ask
      s.receiverFilters.length 0

/-! ## §7. The dispatcher. -/

/-- What the event's method does. -/
def handle (s : DownStream) (ask : Ask) : Direction → EventBody → Except Panic DownStream
  | .downstream, .reset _ => .ok s.resetStream
  | .downstream, .receiveHeaders _ endStream => .ok (s.receiveHeaders ask endStream)
  | .downstream, .receiveData _ endStream => s.receiveData ask endStream
  | .downstream, .receiveTrailer _ => s.receiveTrailers ask
  | .upstream, .reset reason =>
    match s.upstreamRequest with
    | some r =>
      ({ s with upstreamRequest := some r.dropSender }).onUpstreamReset ask .upstreamReset
        reason
    | none => .error .nilDereference
  | .upstream, .receiveHeaders headers endStream =>
    if s.upstreamRequest.isSome then s.onUpstreamHeaders ask headers endStream
    else .error .nilDereference
  | .upstream, .receiveData _ endStream =>
    if s.upstreamRequest.isSome then .ok (s.onUpstreamData endStream)
    else .error .nilDereference
  | .upstream, .receiveTrailer _ =>
    if s.upstreamRequest.isSome then .ok s.onUpstreamTrailers else .error .nilDereference
  | _, _ => .ok s

/-- `done, ok := streamMap[e.streamID]; ok && !done`. -/
def isOpen (s : DownStream) : Bool := s.entry.any fun entry => !entry.done

/-- `streamMap[e.streamID] = streamMap[e.streamID] || e.stream.upstreamProcessDone`. -/
def markDone (s : DownStream) : DownStream :=
  { s with entry := s.entry.map fun entry =>
      { entry with done := entry.done || s.upstreamProcessDone } }

/-- `eventProcess`. -/
def eventProcess (s : DownStream) (ask : Ask) (e : Event Unit) : Except Panic DownStream :=
  match e.body with
  | .start => .ok { s with entry := some ⟨false, true⟩ }
  | .stop => .ok { s with entry := none }
  | body => if s.isOpen then (s.handle ask e.direction body).map markDone else .ok s

end DownStream

/-! ## §8. Every order of calls. -/

/-- What another stream under the same id does to the dispatcher's flag. -/
inductive Other where
  | start
  | stop
  | done
  deriving Repr, DecidableEq

def Other.change : Other → Option Entry → Option Entry
  | .start, _ => some ⟨false, false⟩
  | .stop, _ => none
  | .done, entry => entry.map fun entry => { entry with done := true }

/-- What can happen. -/
inductive Action where
  /-- The client's request arrives. -/
  | onReceiveHeaders (headers : HeaderMap) (endStream : Bool)
  | onReceiveData (data : List UInt8) (endStream : Bool)
  | onReceiveTrailers (trailers : HeaderMap)
  /-- The client's bytes cannot be decoded. -/
  | onDecodeError (err : GoError)
  /-- The stream layer resets the stream. -/
  | onResetStream (reason : StreamResetReason)
  /-- The client's connection is closed: the streams in the list are reset. -/
  | onDownstreamClose
  /-- The upstream's response arrives. -/
  | upstreamHeaders (headers : HeaderMap) (endStream : Bool)
  | upstreamData (data : List UInt8) (endStream : Bool)
  | upstreamTrailers (trailers : HeaderMap)
  /-- The upstream's stream is reset, or its response cannot be decoded. -/
  | upstreamReset (reason : StreamResetReason)
  /-- The dispatcher finds the control channel empty. -/
  | poll
  /-- It takes a control event, or a job. -/
  | control (ask : Ask)
  | job (ask : Ask)
  /-- The time of a timer is over, or its goroutine sees that it was stopped;
  when both are the case either can happen. -/
  | fire (t : Timer) (ask : Ask)
  | expire (t : Timer)
  /-- A filter lets the request go on. -/
  | continueDecoding (index : Nat) (ask : Ask)
  /-- Another stream under the same id. -/
  | other (o : Other)

namespace DownStream

/-- `NewStream` of the proxy: `newActiveStream`, with that many receiver
filters. -/
def newStream (streamID : GoString) (filters : Nat) : DownStream :=
  let s : DownStream := {
    streamID := streamID
    receiverFilters := List.replicate filters {}
    requestActive := 1
    listed := true }
  s.offer .downstream .start

/-- The callback of a timer. -/
def timerCallback (s : DownStream) (ask : Ask) : TimerCallback → Except Panic DownStream
  | .onResponseTimeout => s.onResponseTimeout ask
  | .onPerReqTimeout => s.onPerReqTimeout ask
  | .doRetry => s.doRetry ask

/-- One call.  There is no step from a call that panics. -/
def step (s : DownStream) : Action → Option DownStream
  | .onReceiveHeaders headers endStream => s.offer .downstream (.receiveHeaders headers endStream)
  | .onReceiveData data endStream =>
    ({ s with downstreamReqDataBuf := true }).offer .downstream (.receiveData data endStream)
  | .onReceiveTrailers trailers => s.offer .downstream (.receiveTrailer trailers)
  | .onDecodeError err => s.onDecodeError err
  | .onResetStream reason => s.onResetStream reason
  | .onDownstreamClose => if s.listed then s.onResetStream .connectionTermination else none
  | .upstreamHeaders headers endStream => s.offer .upstream (.receiveHeaders headers endStream)
  | .upstreamData data endStream => s.offer .upstream (.receiveData data endStream)
  | .upstreamTrailers trailers => s.offer .upstream (.receiveTrailer trailers)
  | .upstreamReset reason => s.upstreamOnResetStream reason
  | .poll => if s.ctrlChan = [] then some { s with polled := true } else none
  | .control ask =>
    match s.ctrlChan with
    | e :: rest =>
      (({ s with ctrlChan := rest, polled := false }).eventProcess ask e).toOption
    | [] => none
  | .job ask =>
    match s.jobChan with
    | e :: rest =>
      if s.polled then
        (({ s with jobChan := rest, polled := false }).eventProcess ask e).toOption
      else none
    | [] => none
  | .fire t ask =>
    if t ∈ s.timers then
      (({ s with timers := s.timers.erase t }).timerCallback ask t.callback).toOption
    else none
  | .expire t =>
    if t ∈ s.timers ∧ t.stopping = true then some { s with timers := s.timers.erase t } else none
  | .continueDecoding index ask =>
    if index ∈ s.continuations then
      (doContinue ask (s.receiverFilters.length - (index + 1)) index
        { s with continuations := s.continuations.erase index }).toOption
    else none
  | .other o => some { s with entry := o.change s.entry }

/-- `step` as a relation. -/
def Step (s : DownStream) (a : Action) (s' : DownStream) : Prop := s.step a = some s'

end DownStream

end Mosn.Proxy.Lifecycle
