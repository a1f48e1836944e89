/-
  Mosn.Proxy.Retries
  **STREAMS THAT SHARE THE RETRIES OF A CLUSTER** (`pkg/proxy/retrystate.go`,
  the upstream half of `pkg/proxy/downstream.go`, `newClusterStats` and
  `NewResourceManager` of `pkg/upstream/cluster`).

  A retry that is scheduled takes a slot of the cluster (`Increase`), and the
  `reset` of its retry state gives it back (`Decrease`).  `Held` is a stream
  together with the counter of its cluster: its methods are those of
  `Mosn.Proxy.DownStream`, with the slots that are taken and given back on the
  way.

  The statistics are a parameter: `newClusterStats` leaves two of them nil.
-/
import Mosn.Lib.Table
import Mosn.Proxy.DownStream
import Mosn.Stream.CodecClient

namespace Mosn.Proxy.Lifecycle

open Mosn.Lib Mosn.Types
open Mosn.Stream.Codec (Resource)

/-! ## §1. The cluster. -/

/-- `resourcemanager`. -/
structure ResourceManager where
  connections : Resource
  pendingRequests : Resource
  requests : Resource
  retries : Resource
  deriving DecidableEq

/-- `NewResourceManager`. -/
def newResourceManager (thresholds : List Thresholds) : ResourceManager :=
  match thresholds with
  | [] => ⟨⟨0, 10240⟩, ⟨0, 10240⟩, ⟨0, 10240⟩, ⟨0, 3⟩⟩
  | t :: _ =>
    ⟨⟨0, t.maxConnections.toUInt64⟩, ⟨0, t.maxPendingRequests.toUInt64⟩,
      ⟨0, t.maxRequests.toUInt64⟩, ⟨0, t.maxRetries.toUInt64⟩⟩

/-- `clusterInfo`. -/
structure ClusterInfo where
  stats : ClusterStats
  resourceManager : ResourceManager

/-- `newCluster`. -/
def newCluster (config : ClusterConfig) : ClusterInfo :=
  ⟨newClusterStats config, newResourceManager config.thresholds⟩

/-! ## §2. A stream and its cluster. -/

/-- The number of slots that the stream's retry state holds: `retryFunc` is
not nil. -/
def DownStream.slot (s : DownStream) : Nat := if s.retryState.any RetryState.retryFunc then 1 else 0

/-- A stream, and how often it has taken a slot and given one back.  The
counts record what happens and are never read. -/
structure Tracked where
  stream : DownStream
  scheduled : Nat := 0
  released : Nat := 0

/-- A stream and the retries of its cluster, while one of its methods runs. -/
structure Held extends Tracked where
  retries : Resource

namespace Held

/-- What a method does that has nothing to do with retries. -/
def on (h : Held) (f : DownStream → DownStream) : Held := { h with stream := f h.stream }

/-- `retryState.reset`. -/
def resetRetry (h : Held) : Held :=
  match h.stream.retryState with
  | some r =>
    if r.retryFunc then
      { h with
        retries := h.retries.decrease
        released := h.released + 1
        stream := { h.stream with retryState := some r.reset } }
    else h
  | none => h

/-- `cleanUp`. -/
def cleanUp (h : Held) : Held := h.resetRetry.on DownStream.cleanUp

/-- `cleanStream`: its `cleanUp` resets the retry state. -/
def cleanStream (h : Held) : Held :=
  if h.stream.downstreamCleaned then h else h.resetRetry.on DownStream.cleanStream

/-- `endStream`. -/
def endStream (h : Held) : Held :=
  if !h.stream.downstreamRecvDone || !h.stream.upstreamProcessDone then h.on DownStream.endStream
  else h.cleanStream

/-- `ResetStream`. -/
def resetStream (h : Held) : Held :=
  if h.stream.downstreamReset then h
  else (h.on fun s => { s with downstreamReset := true }).cleanStream

/-- `appendHeaders`; `code` is the status of a local reply. -/
def appendHeaders (h : Held) (code : Option Int) (endStream : Bool) : Held :=
  let h := h.on fun s =>
    { s with upstreamProcessDone := endStream, sent := s.sent ++ [.headers code endStream] }
  if endStream then h.endStream else h

/-- `appendData`. -/
def appendData (h : Held) (endStream : Bool) : Held :=
  let h := h.on fun s =>
    { s with upstreamProcessDone := endStream, sent := s.sent ++ [.data endStream] }
  if endStream then h.endStream else h

/-- `appendTrailers`. -/
def appendTrailers (h : Held) : Held :=
  (h.on fun s => { s with upstreamProcessDone := true, sent := s.sent ++ [.trailers] }).endStream

/-- `sendHijackReply` with the headers of the request. -/
def hijackRequest (h : Held) (code : Int) : Held :=
  (h.on fun s =>
    { s with recycledWrites := if s.recycled then s.recycledWrites + 1 else s.recycledWrites
      }).appendHeaders (some code) true

section Methods

variable (stats : ClusterStats)

/-- `shouldRetry`. -/
def shouldRetry (h : Held) (r : RetryState) (headers : HeaderMap)
    (reason : Option StreamResetReason) : Except Panic (RetryCheckStatus × Held) := do
  let (check, r) := r.shouldRetry headers reason h.retries.canCreate
  if check = .retryOverflow then stats.inc .upstreamRequestRetryOverflow
  return (check, h.on fun s => { s with retryState := some r })

/-- `scheduleRetry`. -/
def scheduleRetry (h : Held) : Except Panic Held := do
  let h := { h.on fun s =>
      { s with retryState := s.retryState.map fun r => { r with retryFunc := true } } with
    retries := h.retries.increase
    scheduled := h.scheduled + 1 }
  stats.inc .upstreamRequestRetry
  return h.on fun s => s.startTimer .doRetry

/-- `retry`, of a retry state that is not nil. -/
def retry (h : Held) (headers : HeaderMap) (reason : Option StreamResetReason) :
    Except Panic (RetryCheckStatus × Held) :=
  let h := h.resetRetry
  match h.stream.retryState with
  | none => .error .nilDereference
  | some r => do
      let (check, h) ← h.shouldRetry stats r headers reason
      if check = .shouldRetry then
        let h ← h.scheduleRetry stats
        return (check, h)
      else return (check, h)

/-- `setupRetry`. -/
def setupRetry (h : Held) (endStream : Bool) : Except Panic (Bool × Held) := do
  let (again, s) ← h.stream.setupRetry endStream
  return (again, { h with stream := s })

/-- Whether a retry is under way after `retry`. -/
def retrying (h : Held) (headers : HeaderMap) (reason : Option StreamResetReason)
    (endStream : Bool) : Except Panic (Bool × Held) := do
  let (check, h) ← h.retry stats headers reason
  if check = .shouldRetry then h.setupRetry endStream else return (false, h)

/-- The end of `onUpstreamReset`, when there is no retry. -/
def giveUp (h : Held) (urtype : DownStream.UpstreamResetType) : Held :=
  let h := h.cleanUp
  if h.stream.downstreamResponseStarted then h.endStream
  else h.hijackRequest
    (if urtype = .upstreamReset then noHealthUpstreamCode else timeoutExceptionCode)

/-- `onUpstreamReset`. -/
def onUpstreamReset (h : Held) (urtype : DownStream.UpstreamResetType)
    (reason : StreamResetReason) : Except Panic Held :=
  if h.stream.upstreamReset then .ok h
  else
    let h := h.on fun s => { s with upstreamReset := true }
    if urtype ≠ .upstreamGlobalTimeout ∧ h.stream.downstreamResponseStarted = true
        ∧ h.stream.retryState.isSome = true then do
      let (again, h) ← h.retrying stats ∅ (some reason) true
      if again then return h else return h.giveUp urtype
    else .ok (h.giveUp urtype)

/-- `onUpstreamResponseRecvFinished`. -/
def onUpstreamResponseRecvFinished (h : Held) : Held :=
  (if !h.stream.upstreamRequestSent then h.on DownStream.upstreamResetStream else h).cleanUp

/-- The part of `onUpstreamHeaders` after the check for a retry. -/
def forwardHeaders (h : Held) (endStream : Bool) : Held :=
  let h := h.on fun s => { s with downstreamResponseStarted := true }
  let h := if endStream then h.onUpstreamResponseRecvFinished else h
  h.appendHeaders none endStream

/-- `onUpstreamHeaders`. -/
def onUpstreamHeaders (h : Held) (headers : HeaderMap) (endStream : Bool) : Except Panic Held :=
  if h.stream.retryState.isSome then do
    let (again, h) ← h.retrying stats headers none endStream
    if again then return h else return h.resetRetry.forwardHeaders endStream
  else .ok (h.forwardHeaders endStream)

/-- `onUpstreamData`. -/
def onUpstreamData (h : Held) (endStream : Bool) : Held :=
  (if endStream then h.onUpstreamResponseRecvFinished else h).appendData endStream

/-- `onUpstreamTrailers`. -/
def onUpstreamTrailers (h : Held) : Held := h.onUpstreamResponseRecvFinished.appendTrailers

/-- `initializeUpstreamConnectionPool`. -/
def initializeUpstreamConnectionPool (h : Held) (ask : Ask) : Bool × Held :=
  if !(ask h.stream).clusterSnapshot then (false, h.hijackRequest routerUnavailableCode)
  else if !(ask h.stream).connPool then (false, h.hijackRequest noHealthUpstreamCode)
  else (true, h)

/-- What `doRetry` does with a connection pool. -/
def resend (h : Held) (ask : Ask) : Except Panic Held := do
  let s := h.stream.newUpstreamRequest ask
    (h.stream.downstreamReqDataBuf && h.stream.downstreamReqTrailers)
  let s ← s.resendData
  let s ← s.resendTrailers
  return { h with stream := s.setupPerReqTimeout }

/-- `doRetry`. -/
def doRetry (h : Held) (ask : Ask) : Except Panic Held :=
  let (found, h) := h.initializeUpstreamConnectionPool ask
  if !found then .ok (h.hijackRequest noHealthUpstreamCode).cleanUp else h.resend ask

/-- `onResponseTimeout`. -/
def onResponseTimeout (h : Held) : Except Panic Held := do
  stats.inc .upstreamRequestTimeout
  (h.on fun s => ({ s with responseTimer := none }).upstreamResetStream).onUpstreamReset stats
    .upstreamGlobalTimeout .localReset

/-- `onPerReqTimeout`. -/
def onPerReqTimeout (h : Held) : Except Panic Held :=
  if h.stream.downstreamResponseStarted then .ok h
  else do
    stats.inc .upstreamRequestTimeout
    if h.stream.upstreamRequest.isNone then .error .nilDereference
    else
      (h.on fun s => ({ s with perRetryTimer := none }).upstreamResetStream).onUpstreamReset stats
        .upstreamPerTryTimeout .localReset

/-- What can be called. -/
inductive Call where
  /-- `ReceiveHeaders`, `ReceiveData`, `ReceiveTrailers`, `ResetStream` of the
  upstream request. -/
  | upstreamHeaders (headers : HeaderMap) (endStream : Bool)
  | upstreamData (endStream : Bool)
  | upstreamTrailers
  | upstreamReset (reason : StreamResetReason)
  /-- The callbacks of the timers. -/
  | responseTimeout
  | perReqTimeout
  | doRetry (ask : Ask)
  /-- `ResetStream` of the stream. -/
  | resetStream
  | cleanStream

/-- A method of the upstream request. -/
def upstream (h : Held) (method : Held → Except Panic Held) : Except Panic Held :=
  if h.stream.upstreamRequest.isSome then method h else .error .nilDereference

/-- One call. -/
def call (h : Held) : Call → Except Panic Held
  | .upstreamHeaders headers endStream =>
    h.upstream fun h => h.onUpstreamHeaders stats headers endStream
  | .upstreamData endStream => h.upstream fun h => .ok (h.onUpstreamData endStream)
  | .upstreamTrailers => h.upstream fun h => .ok h.onUpstreamTrailers
  | .upstreamReset reason =>
    h.upstream fun h =>
      (h.on fun s =>
        { s with upstreamRequest := s.upstreamRequest.map UpstreamRequest.dropSender
          }).onUpstreamReset stats .upstreamReset reason
  | .responseTimeout => h.onResponseTimeout stats
  | .perReqTimeout => h.onPerReqTimeout stats
  | .doRetry ask => h.doRetry ask
  | .resetStream => .ok h.resetStream
  | .cleanStream => .ok h.cleanStream

end Methods

end Held

/-! ## §3. What the methods do to the stream. -/

namespace RetryState

/-- The check succeeds with retries remaining. -/
def Passes (r : RetryState) (headers : HeaderMap) (reason : Option StreamResetReason) : Prop :=
  r.retiesRemaining ≠ 0 ∧ r.doRetryCheck headers reason = true

instance (r : RetryState) (headers : HeaderMap) (reason : Option StreamResetReason) :
    Decidable (r.Passes headers reason) := inferInstanceAs (Decidable (_ ∧ _))

/-- A retry fewer; at none it stays. -/
@[local grind]
def tried (r : RetryState) : RetryState := { r with retiesRemaining := r.retiesRemaining - 1 }

/-- **`shouldRetry`**: room for another retry is what is called an overflow. -/
theorem shouldRetry_eq (r : RetryState) (headers : HeaderMap) (reason : Option StreamResetReason)
    (canCreate : Bool) : r.shouldRetry headers reason canCreate
      = (if r.Passes headers reason then
          if canCreate then .retryOverflow else .shouldRetry
        else .noRetry, r.tried) := by
  have hcheck : r.tried.doRetryCheck headers reason = r.doRetryCheck headers reason := rfl
  simp only [shouldRetry, Passes]
  by_cases hzero : r.retiesRemaining = 0
  · have hsame : r.tried = r := by
      rcases r with ⟨retryOn, remaining, retryFunc⟩
      have hnone : remaining = 0 := hzero
      rw [hnone]
      rfl
    simp [hzero, hsame]
  · grind

theorem not_passes_reset (r : RetryState) (reason : Option StreamResetReason) :
    ¬ r.Passes ∅ reason := by
  intro h
  have hcheck := h.2
  simp only [doRetryCheck] at hcheck
  split at hcheck
  · cases hcheck
  · split at hcheck <;> simp at hcheck

end RetryState

namespace Held

@[simp] theorem stream_on (h : Held) (f : DownStream → DownStream) :
    (h.on f).stream = f h.stream := rfl

theorem stream_resetRetry (h : Held) : h.resetRetry.stream
      = { h.stream with retryState := h.stream.retryState.map RetryState.reset } := by
  obtain ⟨⟨s, scheduled, released⟩, retries⟩ := h
  rcases hr : s.retryState with _ | ⟨retryOn, remaining, retryFunc⟩
  · simp only [resetRetry, hr, Option.map_none]
    rw [← hr]
  · cases retryFunc with
    | true =>
      simp only [resetRetry, hr, if_true]
      rfl
    | false =>
      simp only [resetRetry, hr, Bool.false_eq_true, if_false]
      show s = { s with retryState := some ⟨retryOn, remaining, false⟩ }
      rw [← hr]

section Methods

variable {stats : ClusterStats} {h h' : Held} {r : RetryState} {headers : HeaderMap}
  {reason : Option StreamResetReason} {check : RetryCheckStatus} {endStream again : Bool}

theorem inc_ok {stat : ClusterStat} {u : Unit} (hok : stats.inc stat = .ok u) :
    stats stat = true := by
  simp only [ClusterStats.inc] at hok
  split at hok
  · assumption
  · cases hok

theorem inc_of_set {stat : ClusterStat} (hset : stats stat = true) : stats.inc stat = .ok () := by
  simp only [ClusterStats.inc, hset, if_true]

/-- A stream that has tried for a retry and has none. -/
def settled (h : Held) (r : RetryState) : Held :=
  h.resetRetry.on fun s => { s with retryState := some r.reset.tried }

/-- A stream that has scheduled a retry. -/
def scheduling (h : Held) (r : RetryState) : Held :=
  { h.resetRetry.on fun s =>
      { s.startTimer .doRetry with
        retryState := some { r.reset.tried with retryFunc := true } } with
    retries := h.resetRetry.retries.increase
    scheduled := h.resetRetry.scheduled + 1 }

/-- **`retry`**, for each of its three results. -/
theorem retry_eq (hr : h.stream.retryState = some r) : h.retry stats headers reason =
      if r.Passes headers reason then
        if h.resetRetry.retries.canCreate then
          (stats.inc .upstreamRequestRetryOverflow).map fun _ => (.retryOverflow, h.settled r)
        else (stats.inc .upstreamRequestRetry).map fun _ => (.shouldRetry, h.scheduling r)
      else .ok (.noRetry, h.settled r) := by
  have hreset : h.resetRetry.stream.retryState = some r.reset := by
    rw [stream_resetRetry, hr, Option.map_some]
  have hpass : r.reset.Passes headers reason ↔ r.Passes headers reason := Iff.rfl
  simp only [retry, hreset, shouldRetry, RetryState.shouldRetry_eq, hpass]
  by_cases hp : r.Passes headers reason
  · simp only [hp, if_true]
    by_cases hc : h.resetRetry.retries.canCreate = true
    · simp only [hc, if_true]
      cases stats.inc .upstreamRequestRetryOverflow <;> rfl
    · simp only [hc, scheduleRetry]
      cases stats.inc .upstreamRequestRetry <;> rfl
  · simp only [hp, if_false]
    rfl

theorem upstream_ok {method : Held → Except Panic Held} (hok : h.upstream method = .ok h') :
    h.stream.upstreamRequest.isSome = true ∧ method h = .ok h' := by
  simp only [upstream] at hok
  split at hok
  next hsome => exact ⟨hsome, hok⟩
  next => cases hok

end Methods

end Held

/-! ## §4. The streams of a cluster. -/

/-- The streams that share the retries of a cluster. -/
structure Streams where
  retries : Resource
  streams : List Tracked

namespace Streams

variable (stats : ClusterStats)

/-- One call of a method of stream `a.1`.  There is no step from a call that
panics. -/
def step (s : Streams) (a : Nat × Held.Call) : Option Streams :=
  (s.streams[a.1]?).bind fun x =>
    ((Held.mk x s.retries).call stats a.2).toOption.map fun h =>
      ⟨h.retries, s.streams.set a.1 h.toTracked⟩

/-- `step` as a relation. -/
def Step (s : Streams) (a : Nat × Held.Call) (s' : Streams) : Prop := s.step stats a = some s'

/-- The retries that are scheduled and not released. -/
def outstanding (s : Streams) : Nat := (s.streams.map fun x => x.stream.slot).sum

/-- Streams of which none has scheduled a retry, whatever their retry
policies. -/
def Fresh (s : Streams) : Prop :=
  s.retries.current = 0 ∧ ∀ x ∈ s.streams, x.stream.slot = 0 ∧ x.scheduled = 0 ∧ x.released = 0

end Streams

end Mosn.Proxy.Lifecycle
