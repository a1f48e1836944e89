/-
  Mosn.Proxy.System
  **MANY CONNECTIONS, ONE GENERATOR.**

  Requests arrive on server connections, each makes a stream under a freshly
  generated id, and the proxy sends them on over client connections that they
  share.  Responses come back in any order and find their stream by that id.
  The events of a stream wait in a worker pool, so everything interleaves.

  A queued call is taken from the log of the connection that made it, at any
  time and even more than once, which covers every order the pool may choose.

  `issued`, `origin` and `forwarded` record what happened; no step of the
  program reads them.  A stream LIVES while some connection's map holds it.
  While it lives, fewer than 2³² further ids are issued, and it is sent on
  only within the same bound: that is the assumption under which ids of 32
  bits are ids at all.
-/
import Mosn.Proxy.LocalReply

namespace Mosn.Proxy

open Mosn.Lib Mosn.Types Mosn.Network Mosn.Protocol Mosn.Protocol.SofaRpc Mosn.Stream.SofaRpc

/-! ## §1. States. -/

/-- What the proxy keeps of a stream: `downStream` and its current
`upstreamRequest`, the latter as client connection and sender. -/
structure ProxyStream (κ : Type) where
  responseSender : Sender
  downstreamReqHeaders : Option HeaderMap
  upstreamRequest : Option (κ × Sender)

/-- Where a stream comes from: the request frame, and how many ids had been
issued with its own. -/
structure Origin where
  frame : List UInt8
  birth : Nat

/-- The request id its client chose. -/
def Origin.reqID (o : Origin) : UInt32 := (requestCommandV1 o.frame).reqID

/-- The id generated for it, when the generator started at `base`. -/
def Origin.id (base : UInt32) (o : Origin) : UInt32 := base + UInt32.ofNat o.birth

/-- A request sent on: for which receiver, on which client connection, and
under which request id. -/
structure Forwarded (ι κ : Type) where
  client : κ
  receiver : ι × Nat
  reqID : UInt32

/-- The whole proxy.  The receiver `(i, n)` is the one made for the `n`-th
`NewStream` call of server connection `i`. -/
structure ProxyState (ι κ : Type) where
  generator : IDGenerator
  servers : ι → StreamConnection (ι × Nat)
  clients : κ → StreamConnection (ι × Nat)
  streams : ι × Nat → Option (ProxyStream κ)
  issued : Nat
  origin : ι × Nat → Option Origin
  forwarded : List (Forwarded ι κ)

section System

variable {ι κ : Type} [DecidableEq ι]

namespace ProxyState

/-- New connections, and a generator that has reached `base`. -/
def initial (base : UInt32) : ProxyState ι κ where
  generator := ⟨base⟩
  servers := fun i => newStreamConnection (some (fun n => (i, n)))
  clients := fun _ => newStreamConnection none
  streams := fun _ => none
  issued := 0
  origin := fun _ => none
  forwarded := []

def setServer (s : ProxyState ι κ) (i : ι) (conn : StreamConnection (ι × Nat)) : ProxyState ι κ :=
  { s with servers := Function.update s.servers i conn }

def setClient [DecidableEq κ] (s : ProxyState ι κ) (c : κ) (conn : StreamConnection (ι × Nat)) :
    ProxyState ι κ :=
  { s with clients := Function.update s.clients c conn }

def setStream (s : ProxyState ι κ) (r : ι × Nat) (a : ProxyStream κ) : ProxyState ι κ :=
  { s with streams := Function.update s.streams r (some a) }

theorem streams_setStream_self (s : ProxyState ι κ) (r : ι × Nat) (a : ProxyStream κ) :
    (s.setStream r a).streams r = some a := Function.update_self _ _ _

/-- A `NewStream` call makes a stream with a sender for its response. -/
def onCallback (frame : List UInt8) (s : ProxyState ι κ) : Callback (ι × Nat) → ProxyState ι κ
  | .newStream r streamID requestID =>
    { s.setStream r ⟨⟨streamID, requestID, .serverStream, none, none⟩, none, none⟩ with
      origin := Function.update s.origin r (some ⟨frame, s.issued⟩) }
  | _ => s

/-- The state after a request frame on connection `i` led to `w`. -/
def requestReceived (s : ProxyState ι κ) (i : ι) (frame : List UInt8)
    (w : ConnWorld (ι × Nat)) : ProxyState ι κ :=
  (w.filter.callbacks.drop (s.servers i).callbacks.length).foldl (onCallback frame)
    { s.setServer i w.filter with
      generator := w.generator
      issued := s.issued + 1 }

/-- What an attempt to send a request put into a frame. -/
def sentOn (c : κ) (r : ι × Nat) (sender : Sender) : List (Forwarded ι κ) :=
  match sender.encodedHeaders with
  | some buf => [⟨c, r, uint32 (slice buf.bytes 5 9)⟩]
  | none => []

/-- Some connection's map holds the stream. -/
def Alive (s : ProxyState ι κ) (r : ι × Nat) : Prop :=
  (∃ k e, (s.servers r.1).activeStreams.lookup k = some e ∧ e.decoder = r)
    ∨ ∃ c k e, (s.clients c).activeStreams.lookup k = some e ∧ e.decoder = r

/-- Fewer than 2³² ids have been issued since the stream's own. -/
def InLifetime (s : ProxyState ι κ) (r : ι × Nat) : Prop :=
  ∀ o, s.origin r = some o → s.issued < o.birth + 2 ^ 32

/-- One more id can be issued before any living stream's lifetime is over. -/
def CanIssue (s : ProxyState ι κ) : Prop :=
  ∀ r o, s.Alive r → s.origin r = some o → s.issued + 1 < o.birth + 2 ^ 32

end ProxyState

/-! ## §2. Steps. -/

inductive ProxyEvent (ι κ : Type) where
  /-- A request frame arrives on a server connection. -/
  | request (i : ι) (frame : List UInt8)
  /-- A queued `OnReceiveHeaders` of a server connection is worked off. -/
  | receive (i : ι) (j : Nat)
  /-- The request is sent, or sent again, on a client connection. -/
  | forward (r : ι × Nat) (c : κ)
  /-- Its content follows. -/
  | forwardData (r : ι × Nat) (data : List UInt8)
  /-- A response frame arrives on a client connection. -/
  | response (c : κ) (frame : List UInt8)
  /-- A queued call of a client connection is worked off. -/
  | reply (c : κ) (j : Nat)
  /-- The proxy answers itself. -/
  | hijack (r : ι × Nat) (code : Int)

/-- The steps of the proxy; what panics is no step. -/
inductive ProxyStep [DecidableEq κ] : ProxyState ι κ → ProxyEvent ι κ → ProxyState ι κ → Prop where
  | request {s : ProxyState ι κ} {i : ι} {b spare : List UInt8} {m : HeaderMap}
      {order : HeaderOrder} {clock : Nat → Int}
      {l : ConnLoop (ι × Nat)} :
      AcceptedRequest b spare m → b.getD 1 0 = SofaRpc.request → s.CanIssue →
      passOver order spare clock b ⟨s.generator, s.servers i⟩ = .ok (.again l) →
      ProxyStep s (.request i b) (s.requestReceived i b l.env)
  | receive {s : ProxyState ι κ} {i : ι} {j : Nat} {r : ι × Nat} {headers : HeaderMap}
      {isEnd : Bool} {a : ProxyStream κ} :
      (s.servers i).callbacks[j]? = some (.receiveHeaders r headers isEnd) →
      s.streams r = some a →
      ProxyStep s (.receive i j) (s.setStream r { a with downstreamReqHeaders := some headers })
  | forward {s : ProxyState ι κ} {r : ι × Nat} {c : κ} {a : ProxyStream κ}
      {headers left : HeaderMap} {τ : Type} {h₁ h₂ : BoltCommandHandler τ}
      {order : HeaderOrder} {pool : Option SlabPool} {isEnd : Bool}
      {out : StreamConnection.Appended (ι × Nat)} :
      s.streams r = some a → a.downstreamReqHeaders = some headers → s.InLifetime r →
      upstreamAppendHeaders ((defaultProtocols h₁ h₂).encodeHeaders order pool) (s.clients c) r
        headers isEnd = .ok out →
      out.headers = .map left →
      ProxyStep s (.forward r c)
        (({ s with forwarded := s.forwarded ++ ProxyState.sentOn c r out.sender }.setClient c
          out.conn).setStream r
            { a with downstreamReqHeaders := some left, upstreamRequest := some (c, out.sender) })
  | forwardData {s : ProxyState ι κ} {r : ι × Nat} {c : κ} {a : ProxyStream κ}
      {sender : Sender} {data : List UInt8} {isEnd : Bool} :
      s.streams r = some a → a.upstreamRequest = some (c, sender) →
      ProxyStep s (.forwardData r data)
        ((s.setClient c ((s.clients c).appendData sender data isEnd).2).setStream r
          { a with upstreamRequest := some (c, ((s.clients c).appendData sender data isEnd).1) })
  | response {s : ProxyState ι κ} {c : κ} {b spare : List UInt8}
      {order : HeaderOrder} {clock : Nat → Int}
      {l : ConnLoop (ι × Nat)} :
      FrameKind.responseV1.At b → (uint16 (slice b 2 4)).toInt16 = rpcResponse →
      passOver order spare clock b ⟨s.generator, s.clients c⟩ = .ok (.again l) →
      ProxyStep s (.response c b)
        { s.setClient c l.env.filter with generator := l.env.generator }
  | replyHeaders {s : ProxyState ι κ} {c : κ} {j : Nat} {r : ι × Nat} {headers : HeaderMap}
      {isEnd : Bool} {a : ProxyStream κ} {τ : Type} {h₁ h₂ : BoltCommandHandler τ}
      {order : HeaderOrder} {pool : Option SlabPool}
      {out : StreamConnection.Appended (ι × Nat)} :
      (s.clients c).callbacks[j]? = some (.receiveHeaders r headers isEnd) →
      s.streams r = some a →
      (s.servers r.1).appendHeaders ((defaultProtocols h₁ h₂).encodeHeaders order pool)
        a.responseSender (.map headers) isEnd = .ok out →
      ProxyStep s (.reply c j)
        ((s.setServer r.1 out.conn).setStream r { a with responseSender := out.sender })
  | replyData {s : ProxyState ι κ} {c : κ} {j : Nat} {r : ι × Nat} {data : List UInt8}
      {isEnd : Bool} {a : ProxyStream κ} :
      (s.clients c).callbacks[j]? = some (.receiveData r data isEnd) →
      s.streams r = some a →
      ProxyStep s (.reply c j)
        ((s.setServer r.1 ((s.servers r.1).appendData a.responseSender data isEnd).2).setStream r
          { a with responseSender :=
              ((s.servers r.1).appendData a.responseSender data isEnd).1 })
  | hijack {s : ProxyState ι κ} {r : ι × Nat} {code : Int} {a : ProxyStream κ}
      {headers : HeaderMap} {τ : Type} {h₁ h₂ : BoltCommandHandler τ}
      {order : HeaderOrder} {pool : Option SlabPool}
      {d : DownStream (ι × Nat)} :
      s.streams r = some a → a.downstreamReqHeaders = some headers →
      sendHijackReply ((defaultProtocols h₁ h₂).encodeHeaders order pool) code
        ⟨s.servers r.1, a.responseSender, headers⟩ = .ok d →
      -- the stream is over: its headers are not sent on any more
      ProxyStep s (.hijack r code)
        ((s.setServer r.1 d.conn).setStream r
          { a with responseSender := d.responseSender, downstreamReqHeaders := none })

end System

end Mosn.Proxy
