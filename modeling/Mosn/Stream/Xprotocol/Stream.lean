/-
  Mosn.Stream.Xprotocol.Stream
  **STREAMS ON AN XPROTOCOL CONNECTION** (`pkg/stream/xprotocol/stream.go`,
  `connpool.go`).

  Xprotocol forwards bytes it does not understand: what one read brings is
  one request or one response.  A server connection counts its requests; a
  client connection has nothing to tell responses apart by and looks every
  one of them up under the EMPTY stream id.

  As on a sofarpc connection the map holds copies, receivers are values of an
  arbitrary type `ρ`, and a receiver's callback is its record in `callbacks`.
  The codec client puts an `activeRequest` between stream and receiver that
  passes every call on; it is left out.
-/
import Mosn.Protocol.SofaRpc.Handler

namespace Mosn.Stream.Xprotocol

open Mosn.Lib Mosn.Types Mosn.Protocol Mosn.Protocol.SofaRpc

/-! ## §1. Data. -/

/-- `StreamDirection`. -/
inductive StreamDirection where
  | clientStream
  | serverStream
  deriving Repr, DecidableEq

/-- The sending side of a `stream`. -/
structure Sender where
  streamID : GoString
  direction : StreamDirection

/-- A `stream` as the connection's map holds it. -/
structure StreamEntry (ρ : Type) where
  streamID : GoString
  direction : StreamDirection
  decoder : ρ

/-- Calls from the stream layer into the proxy. -/
inductive Callback (ρ : Type) where
  | newStream (receiver : ρ) (streamID : GoString)
  | receiveHeaders (receiver : ρ) (headers : HeaderMap) (endStream : Bool)
  | receiveData (receiver : ρ) (data : List UInt8) (endStream : Bool)

/-- `streamConnection`.  `serverCallbacks n` is the receiver returned by the
`n`-th `NewStream` callback; a client connection has none. -/
structure StreamConnection (ρ : Type) where
  activeStream : GoMap GoString (StreamEntry ρ)
  serverCallbacks : Option (Nat → ρ)
  remoteAddr : GoString
  detected : Nat
  callbacks : List (Callback ρ)

/-- `newStreamConnection`. -/
def newStreamConnection {ρ : Type} (serverCallbacks : Option (Nat → ρ)) (remoteAddr : GoString) :
    StreamConnection ρ where
  activeStream := ∅
  serverCallbacks := serverCallbacks
  remoteAddr := remoteAddr
  detected := 0
  callbacks := []

/-- `strings.ToLower(protocol.MosnHeaderHostKey)`. -/
def hostKey : GoString := str "host"

/-- `strings.ToLower(protocol.MosnHeaderPathKey)`. -/
def pathKey : GoString := str "path"

/-- The headers that `Dispatch` makes up for routing. -/
def dispatchHeaders (remoteAddr : GoString) : HeaderMap :=
  ((∅ : HeaderMap).insert hostKey remoteAddr).insert pathKey (str "/")

namespace StreamConnection

variable {ρ : Type}

/-! ## §2. Receiving. -/

/-- A call into the proxy. -/
def call (conn : StreamConnection ρ) (c : Callback ρ) : StreamConnection ρ :=
  { conn with callbacks := conn.callbacks ++ [c] }

/-- `NewStream`: the sender, and the connection with the stream in its map. -/
def newStream (conn : StreamConnection ρ) (streamID : GoString) (responseDecoder : ρ) :
    Sender × StreamConnection ρ :=
  (⟨streamID, .clientStream⟩,
    { conn with
      activeStream := conn.activeStream.insert streamID
        ⟨streamID, .clientStream, responseDecoder⟩ })

/-- `onNewStreamDetected`, with the connection's `serverCallbacks`. -/
def onNewStreamDetected (conn : StreamConnection ρ) (receiver : Nat → ρ) (streamID : GoString) :
    StreamConnection ρ :=
  if (conn.activeStream.lookup streamID).isSome then conn
  else
    let decoder := receiver conn.detected
    let conn := conn.call (.newStream decoder streamID)
    { conn with
      detected := conn.detected + 1
      activeStream := conn.activeStream.insert streamID ⟨streamID, .serverStream, decoder⟩ }

/-- `OnReceiveHeaders`; it always returns `types.Continue`. -/
def onReceiveHeaders (conn : StreamConnection ρ) (streamID : GoString) (headers : HeaderMap) :
    StreamConnection ρ :=
  let conn :=
    match conn.serverCallbacks with
    | some receiver => conn.onNewStreamDetected receiver streamID
    | none => conn
  match conn.activeStream.lookup streamID with
  | some stream => conn.call (.receiveHeaders stream.decoder headers false)
  | none => conn

/-- `OnReceiveData`; it always returns `types.StopIteration`. -/
def onReceiveData (conn : StreamConnection ρ) (streamID : GoString) (data : List UInt8) :
    StreamConnection ρ :=
  match conn.activeStream.lookup streamID with
  | some stream =>
    let conn := conn.call (.receiveData stream.decoder data true)
    if stream.direction = .clientStream then
      { conn with activeStream := conn.activeStream.erase stream.streamID }
    else conn
  | none => conn

/-- `Dispatch`, with the counter `streamIDXprotocolCount`. -/
def dispatch (conn : StreamConnection ρ) (count : IDGenerator) (buffer : List UInt8) :
    StreamConnection ρ × IDGenerator :=
  let (streamID, count) :=
    match conn.serverCallbacks with
    | some _ => count.getString
    | none => ([], count)
  let headers := dispatchHeaders conn.remoteAddr
  ((conn.onReceiveHeaders streamID headers).onReceiveData streamID buffer, count)

end StreamConnection

/-! ## §3. The connection pool. -/

/-- `types.PoolFailureReason`. -/
inductive PoolFailureReason where
  | overflow
  | connectionFailure
  deriving Repr, DecidableEq

/-- How `connPool.NewStream` answers its caller. -/
inductive PoolAnswer where
  | onFailure (streamID : GoString) (reason : PoolFailureReason)
  | onReady (streamID : GoString) (sender : Sender)

/-- `activeClient`. -/
structure ActiveClient (ρ : Type) where
  codec : StreamConnection ρ
  totalStream : UInt64

/-- `connPool`: one client for everything. -/
structure ConnPool (ρ : Type) where
  primaryClient : Option (ActiveClient ρ)

namespace ConnPool

variable {ρ : Type}

/-- `connPool.NewStream`.  `connect` is the connection that `newActiveClient`
makes; `canCreate` is the answer of the cluster's request limit. -/
def newStream (p : ConnPool ρ) (connect : StreamConnection ρ) (canCreate : Bool)
    (streamID : GoString) (responseDecoder : ρ) : PoolAnswer × ConnPool ρ :=
  let client := p.primaryClient.getD ⟨connect, 0⟩
  if canCreate then
    let (sender, codec) := client.codec.newStream streamID responseDecoder
    (.onReady streamID sender, ⟨some ⟨codec, client.totalStream + 1⟩⟩)
  else (.onFailure streamID .overflow, ⟨some client⟩)

/-- `codecClient.OnData` on the pool's connection; `count` is the counter of
the server connections. -/
def onData (p : ConnPool ρ) (count : IDGenerator) (buffer : List UInt8) : ConnPool ρ :=
  match p.primaryClient with
  | some client => ⟨some { client with codec := (client.codec.dispatch count buffer).1 }⟩
  | none => p

end ConnPool

/-- The stream id that `upstreamRequest.appendHeaders` asks the pool for. -/
def upstreamStreamID (headers : HeaderMap) : GoString := (headers.lookup headerStreamID).getD []

theorem upstreamStreamID_dispatchHeaders (remoteAddr : GoString) :
    upstreamStreamID (dispatchHeaders remoteAddr) = [] := by
  unfold upstreamStreamID dispatchHeaders
  rw [Finmap.lookup_insert_of_ne _ (by decide), Finmap.lookup_insert_of_ne _ (by decide),
    Finmap.lookup_empty]
  rfl

end Mosn.Stream.Xprotocol
