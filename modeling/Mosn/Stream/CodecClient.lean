/-
  Mosn.Stream.CodecClient
  **CODEC CLIENTS AND THEIR POOLS** (`pkg/stream/codecclient.go`,
  `pkg/stream/http/codecclient.go`, the `connpool.go` and the listener part of
  the `stream.go` of each protocol, `pkg/upstream/cluster/resourcemanager.go`,
  `upstreamRequest.resetStream` and `OnReady` of `pkg/proxy/upstream.go`).

  A request to an upstream is known in three places:

    • the cluster counts it among its requests (`Requests().current`),
    • the codec client of its connection has it in `ActiveRequests`,
    • its stream has two listeners: the codec client's `activeRequest`, and
      the proxy's `upstreamRequest`.

  It is destroyed when its response is complete or its stream is reset; the
  stream tells its listeners of a reset, so what `RemoveEventListener` leaves
  in the list decides who hears of it.

  Requests and clients are numbered in the order in which they were made.
  The statistics are left out; nothing reads them.
-/
import Mosn.Lib.Transition

namespace Mosn.Stream.Codec

open Mosn.Lib

/-! ## §1. The listeners of a stream. -/

inductive Protocol where
  | sofaRpc
  | xprotocol
  | http1
  | http2
  deriving Repr, DecidableEq

/-- The two protocols whose pools keep one client at a time. -/
inductive RpcProtocol where
  | sofaRpc
  | xprotocol
  deriving Repr, DecidableEq

def RpcProtocol.protocol : RpcProtocol → Protocol
  | .sofaRpc => .sofaRpc
  | .xprotocol => .xprotocol

/-- The two whose streams carry HTTP. -/
inductive HttpProtocol where
  | http1
  | http2
  deriving Repr, DecidableEq

def HttpProtocol.protocol : HttpProtocol → Protocol
  | .http1 => .http1
  | .http2 => .http2

/-- Who listens to the stream of a request. -/
inductive Listener where
  | activeRequest
  | upstreamRequest
  | other (n : Nat)
  deriving Repr, DecidableEq

/-- `AddEventListener`. -/
def addEventListener (streamCbs : List Listener) (cb : Listener) : List Listener :=
  streamCbs ++ [cb]

/-- The loop of `RemoveEventListener` finds the first listener with `hit`; it
is cut out. -/
def cutFirst (hit : Listener → Bool) (streamCbs : List Listener) : List Listener :=
  match streamCbs.findIdx? hit with
  | some cbIdx => streamCbs.take cbIdx ++ streamCbs.drop (cbIdx + 1)
  | none => streamCbs

/-- `RemoveEventListener`.  In the two HTTP protocols the loop variable has
the name of the argument, and is compared with itself. -/
def removeEventListener : Protocol → List Listener → Listener → List Listener
  | .sofaRpc, streamCbs, cb => cutFirst (fun streamCb => streamCb == cb) streamCbs
  | .xprotocol, streamCbs, cb => cutFirst (fun streamCb => streamCb == cb) streamCbs
  | .http1, streamCbs, _ => cutFirst (fun streamCb => streamCb == streamCb) streamCbs
  | .http2, streamCbs, _ => cutFirst (fun streamCb => streamCb == streamCb) streamCbs

theorem cutFirst_cons (hit : Listener → Bool) (cb : Listener) (streamCbs : List Listener) :
    cutFirst hit (cb :: streamCbs)
      = if hit cb then streamCbs else cb :: cutFirst hit streamCbs := by
  unfold cutFirst
  rw [List.findIdx?_cons]
  by_cases hcb : hit cb = true
  · rw [if_pos hcb, if_pos hcb]
    rfl
  · rw [if_neg hcb, if_neg hcb]
    cases streamCbs.findIdx? hit with
    | none => rfl
    | some cbIdx => rfl

theorem cutFirst_eq (cb : Listener) (streamCbs : List Listener) :
    cutFirst (fun streamCb => streamCb == cb) streamCbs = streamCbs.erase cb := by
  induction streamCbs with
  | nil => rfl
  | cons first rest ih => rw [cutFirst_cons, List.erase_cons, ih]

theorem cutFirst_self (streamCbs : List Listener) :
    cutFirst (fun streamCb => streamCb == streamCb) streamCbs = streamCbs.tail := by
  cases streamCbs with
  | nil => rfl
  | cons first rest =>
    rw [cutFirst_cons, if_pos (beq_self_eq_true first)]
    rfl

/-! ## §2. The limit of a cluster. -/

/-- `resource`. -/
structure Resource where
  current : Int64
  max : UInt64
  deriving DecidableEq

namespace Resource

/-- `CanCreate`. -/
def canCreate (r : Resource) : Bool :=
  if r.current < 0 then true else decide (r.current.toUInt64 < r.max)

/-- `Increase`. -/
def increase (r : Resource) : Resource := { r with current := r.current + 1 }

/-- `Decrease`. -/
def decrease (r : Resource) : Resource := { r with current := r.current - 1 }

end Resource

/-! ## §3. The clients of a cluster. -/

/-- `ConnectionEvent`. -/
inductive ConnectionEvent where
  | remoteClose
  | localClose
  | onReadErrClose
  | onWriteErrClose
  | onConnect
  | connected
  | connectTimeout
  | connectFailed
  deriving Repr, DecidableEq

namespace ConnectionEvent

/-- `IsClose`. -/
def isClose (event : ConnectionEvent) : Bool :=
  event = .localClose || event = .remoteClose || event = .onReadErrClose
    || event = .onWriteErrClose

/-- `ConnectFailure`. -/
def connectFailure (event : ConnectionEvent) : Bool :=
  event = .connectFailed || event = .connectTimeout

end ConnectionEvent

/-- How `Connect` can end. -/
inductive Dialed where
  | connected
  | remoteClose
  | connectTimeout
  | connectFailed
  deriving Repr, DecidableEq

/-- The event that `Connect` reports. -/
def Dialed.event : Dialed → ConnectionEvent
  | .connected => .connected
  | .remoteClose => .remoteClose
  | .connectTimeout => .connectTimeout
  | .connectFailed => .connectFailed

/-- `activeRequest`, with the listeners of its stream.  The last two fields
record what happens to it and are never read. -/
structure ActiveRequest where
  codecClient : Nat
  deleted : Bool := false
  streamCbs : List Listener := []
  /-- How often `OnStreamDestroy` was called for it. -/
  destroyed : Nat := 0
  /-- How often its `upstreamRequest` was told of a reset. -/
  upstreamResets : Nat := 0
  deriving Repr, DecidableEq

/-- `codecClient`, with the number of the pool that has made it; `closed` is
the flag of its connection. -/
structure CodecClient where
  pool : Nat
  activeRequests : List Nat := []
  connectedFlag : Bool := false
  remoteCloseFlag : Bool := false
  closed : Bool := false
  deriving Repr, DecidableEq

namespace CodecClient

/-- The `switch` of `OnEvent`. -/
def setFlags (event : ConnectionEvent) (client : CodecClient) : CodecClient :=
  { client with
    connectedFlag := client.connectedFlag || event = .connected
    remoteCloseFlag := client.remoteCloseFlag || event = .remoteClose }

def setClosed (closed : Bool) (client : CodecClient) : CodecClient :=
  { client with closed := client.closed || closed }

end CodecClient

/-- A cluster: the counter of its requests, all codec clients of its hosts
and all requests on them.  `activeClient` is the client that a host's pool
uses: `activeClient` of sofarpc, `primaryClient` of xprotocol. -/
structure Cluster where
  requests : Resource
  clients : List CodecClient := []
  made : List ActiveRequest := []
  activeClient : Nat → Option Nat := fun _ => none

namespace Cluster

def modifyRequest (s : Cluster) (r : Nat) (f : ActiveRequest → ActiveRequest) : Cluster :=
  { s with made := s.made.modify r f }

def modifyClient (s : Cluster) (c : Nat) (f : CodecClient → CodecClient) : Cluster :=
  { s with clients := s.clients.modify c f }

/-- `deleteRequest`, and the pool's `onStreamDestroy`. -/
def deleteRequest (s : Cluster) (r : Nat) : Cluster :=
  match s.made[r]? with
  | none => s
  | some request =>
    if request.deleted then s
    else
      let s := s.modifyRequest r fun request =>
        { request with deleted := true, destroyed := request.destroyed + 1 }
      let s := s.modifyClient request.codecClient fun client =>
        { client with activeRequests := client.activeRequests.erase r }
      { s with requests := s.requests.decrease }

/-- `OnResetStream` of a listener.  That of the `activeRequest` is `onReset`;
that of the `upstreamRequest` offers a reset event to the proxy. -/
def onResetStream (r : Nat) (s : Cluster) : Listener → Cluster
  | .activeRequest => s.deleteRequest r
  | .upstreamRequest =>
    s.modifyRequest r fun request =>
      { request with upstreamResets := request.upstreamResets + 1 }
  | .other _ => s

/-- The listeners of the stream of request `r`. -/
def streamCbs (s : Cluster) (r : Nat) : List Listener :=
  (s.made[r]?.map ActiveRequest.streamCbs).getD []

/-- `ResetStream` of the stream. -/
def resetStream (s : Cluster) (r : Nat) : Cluster := (s.streamCbs r).foldl (onResetStream r) s

def setStreamCbs (s : Cluster) (r : Nat) (f : List Listener → List Listener) : Cluster :=
  s.modifyRequest r fun request => { request with streamCbs := f request.streamCbs }

/-- `NewStream` of the codec client. -/
def codecNewStream (s : Cluster) (c : Nat) : Cluster :=
  let r := s.made.length
  let s := { s with
    made := s.made
      ++ [({ codecClient := c, streamCbs := addEventListener [] .activeRequest } : ActiveRequest)] }
  s.modifyClient c fun client => { client with activeRequests := client.activeRequests ++ [r] }

/-- `OnReady` of the `upstreamRequest`. -/
def onReady (s : Cluster) (r : Nat) : Cluster :=
  s.setStreamCbs r fun streamCbs => addEventListener streamCbs .upstreamRequest

/-- The second half of `NewStream` of every pool, with a client: the request
is refused (`OnFailure`), or counted and made. -/
def openStream (s : Cluster) (c : Nat) : Cluster :=
  if !s.requests.canCreate then s
  else
    let r := s.made.length
    (({ s with requests := s.requests.increase }).codecNewStream c).onReady r

/-- `responseDecodeComplete`. -/
def responseDecodeComplete (protocol : Protocol) (s : Cluster) (r : Nat) : Cluster :=
  (s.deleteRequest r).setStreamCbs r fun streamCbs =>
    removeEventListener protocol streamCbs .activeRequest

/-- `resetStream` of the `upstreamRequest`. -/
def upstreamResetStream (protocol : Protocol) (s : Cluster) (r : Nat) : Cluster :=
  (s.setStreamCbs r fun streamCbs =>
    removeEventListener protocol streamCbs .upstreamRequest).resetStream r

/-- `OnEvent` of the codec client of `pkg/stream`.  A reset takes only its own request from
the list, so the `Next` that the loop reads first is that of the list as it
was. -/
def codecOnEvent (s : Cluster) (c : Nat) (event : ConnectionEvent) : Cluster :=
  let s := s.modifyClient c (CodecClient.setFlags event)
  if event.isClose || event.connectFailure then
    ((s.clients[c]?.map CodecClient.activeRequests).getD []).foldl resetStream s
  else s

/-- `p.activeClient = client`. -/
def setActiveClient (s : Cluster) (pool : Nat) (client : Option Nat) : Cluster :=
  { s with activeClient := Function.update s.activeClient pool client }

/-- The branch of xprotocol's `onConnectionEvent` for a closed connection. -/
def clearPrimaryClient (s : Cluster) (pool c : Nat) : Cluster :=
  if s.activeClient pool = some c then s.setActiveClient pool none else s

/-- `Close` of an xprotocol client: if its connection is still open, its
listeners are told. -/
def close (s : Cluster) (pool c : Nat) : Cluster :=
  if (s.clients[c]?.map CodecClient.closed).getD true then s
  else
    ((s.modifyClient c (CodecClient.setClosed true)).codecOnEvent c
      .localClose).clearPrimaryClient pool c

section Pool

variable (rpc : RpcProtocol)

/-- `onConnectionEvent` of the pool. -/
def onConnectionEvent (s : Cluster) (pool c : Nat) (event : ConnectionEvent) : Cluster :=
  match rpc with
  | .sofaRpc =>
    if event.isClose || event.connectFailure then s.setActiveClient pool none else s
  | .xprotocol =>
    if event.isClose then s.clearPrimaryClient pool c
    else if event = .connectTimeout then s.close pool c
    else s

/-- An event of the connection of client `c`: the codec client is told first,
then the pool's. -/
def onEvent (s : Cluster) (c : Nat) (event : ConnectionEvent) : Cluster :=
  match s.clients[c]? with
  | none => s
  | some client =>
    let s := s.modifyClient c (CodecClient.setClosed event.isClose)
    (s.codecOnEvent c event).onConnectionEvent rpc client.pool c event

/-- `newActiveClient`, and that the pool keeps its result.  A sofarpc client
listens while it connects, and is not used when that fails; an xprotocol
client listens later, and is always used. -/
def newActiveClient (s : Cluster) (pool : Nat) (dialed : Dialed) : Cluster :=
  let c := s.clients.length
  let s := { s with clients := s.clients ++ [({ pool := pool } : CodecClient)] }
  match rpc with
  | .sofaRpc =>
    (s.onEvent rpc c dialed.event).setActiveClient pool
      (if dialed = .connected then some c else none)
  | .xprotocol => s.setActiveClient pool (some c)

/-- `NewStream` of the pool. -/
def newStream (s : Cluster) (pool : Nat) (dialed : Dialed) : Cluster :=
  let s := if s.activeClient pool = none then s.newActiveClient rpc pool dialed else s
  match s.activeClient pool with
  | none => s
  | some c => s.openStream c

end Pool

end Cluster

/-! ## §4. Every order of calls. -/

/-- What can happen. -/
inductive Action where
  /-- A request through the pool of a host. -/
  | newStream (pool : Nat) (dialed : Dialed)
  /-- The `activeRequest` is given a part of the response. -/
  | onReceiveHeaders (r : Nat) (endStream : Bool)
  | onReceiveData (r : Nat) (endStream : Bool)
  | onReceiveTrailers (r : Nat)
  /-- The proxy resets the stream, or the stream layer does. -/
  | upstreamResetStream (r : Nat)
  | resetStream (r : Nat)
  /-- An event of the connection of a client. -/
  | onEvent (c : Nat) (event : ConnectionEvent)
  /-- Others listen to the stream, or no longer. -/
  | addEventListener (r n : Nat)
  | removeEventListener (r n : Nat)
  deriving Repr, DecidableEq

namespace Cluster

/-- One call. -/
def step (rpc : RpcProtocol) (s : Cluster) : Action → Cluster
  | .newStream pool dialed => s.newStream rpc pool dialed
  | .onReceiveHeaders r endStream =>
    if endStream then s.responseDecodeComplete rpc.protocol r else s
  | .onReceiveData r endStream => if endStream then s.responseDecodeComplete rpc.protocol r else s
  | .onReceiveTrailers r => s.responseDecodeComplete rpc.protocol r
  | .upstreamResetStream r => s.upstreamResetStream rpc.protocol r
  | .resetStream r => s.resetStream r
  | .onEvent c event => s.onEvent rpc c event
  | .addEventListener r n =>
    s.setStreamCbs r fun streamCbs => Codec.addEventListener streamCbs (.other n)
  | .removeEventListener r n =>
    s.setStreamCbs r fun streamCbs => Codec.removeEventListener rpc.protocol streamCbs (.other n)

/-- `step` as a relation. -/
def Step (rpc : RpcProtocol) (s : Cluster) (a : Action) (s' : Cluster) : Prop :=
  s' = s.step rpc a

/-- A cluster without connections, with its limit. -/
def new (max : UInt64) : Cluster where
  requests := ⟨0, max⟩

end Cluster

end Mosn.Stream.Codec
