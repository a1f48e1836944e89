/-
  Mosn.Stream.SofaRpc.Stream
  **STREAMS ON A SOFARPC CONNECTION** (`pkg/stream/sofarpc/stream.go`,
  `streamhelper.go`, `BuildSofaRespMsg` of `pkg/protocol/sofarpc/types.go`).

  A connection keeps a map from stream ids to streams.  On a server
  connection a request makes a new entry and a new receiver; on a client
  connection `newStream` makes the entry when a request is sent.  A frame's
  headers go to the receiver found under its stream id.

  The map holds COPIES: the `Sender` handed to the proxy is another value
  than the one in the map, and what it accumulates (`encodedHeaders`,
  `encodedData`) is only in the former.

  Receivers are values of an arbitrary type `ρ`.  A receiver's callback
  queues an event and returns (`downStream.OnReceiveHeaders`), so a call is
  modelled by its record in `callbacks`.  `written` is what has been written
  to the network connection, one entry a `Write`.
-/
import Mosn.Protocol.SofaRpc.Handler

namespace Mosn.Stream.SofaRpc

open Mosn.Lib Mosn.Types Mosn.Network Mosn.Protocol Mosn.Protocol.SofaRpc

/-! ## §1. Data. -/

/-- `StreamDirection`. -/
inductive StreamDirection where
  | clientStream
  | serverStream
  deriving Repr, DecidableEq

/-- The sending side of a `stream`. -/
structure Sender where
  streamID : GoString
  requestID : GoString
  direction : StreamDirection
  encodedHeaders : Option IoBuffer
  encodedData : Option (List UInt8)

/-- A `stream` as the connection's map holds it. -/
structure StreamEntry (ρ : Type) where
  streamID : GoString
  requestID : GoString
  direction : StreamDirection
  decoder : ρ
  deriving DecidableEq

/-- Calls from the stream layer into the proxy. -/
inductive Callback (ρ : Type) where
  | newStream (receiver : ρ) (streamID requestID : GoString)
  | receiveHeaders (receiver : ρ) (headers : HeaderMap) (endStream : Bool)
  | receiveData (receiver : ρ) (data : List UInt8) (endStream : Bool)
  | decodeError (receiver : ρ) (err : GoError) (headers : HeaderMap)

/-- Whom a call is made to, or the receiver it creates. -/
def Callback.receiver {ρ : Type} : Callback ρ → ρ
  | .newStream receiver _ _ => receiver
  | .receiveHeaders receiver _ _ => receiver
  | .receiveData receiver _ _ => receiver
  | .decodeError receiver _ _ => receiver

/-- `streamConnection`.  `serverCallbacks n` is the receiver returned by the
`n`-th `NewStream` callback; a client connection has none. -/
structure StreamConnection (ρ : Type) where
  activeStreams : GoMap GoString (StreamEntry ρ)
  serverCallbacks : Option (Nat → ρ)
  detected : Nat
  callbacks : List (Callback ρ)
  written : List (List UInt8)
  closed : Bool

/-- What its processors work on. -/
abbrev ConnWorld (ρ : Type) : Type := World (StreamConnection ρ)

/-- A state of its decode loop. -/
abbrev ConnLoop (ρ : Type) : Type := Protocols.LoopState (ConnWorld ρ)

/-- `newStreamConnection`. -/
def newStreamConnection {ρ : Type} (serverCallbacks : Option (Nat → ρ)) : StreamConnection ρ where
  activeStreams := ∅
  serverCallbacks := serverCallbacks
  detected := 0
  callbacks := []
  written := []
  closed := false

/-! ## §2. Header rewriting (`streamhelper.go`). -/

/-- `decodeSterilize`: whether the headers end the stream, and the headers
with the internal keys set. -/
def decodeSterilize (streamID : GoString) (headers : HeaderMap) : Bool × HeaderMap :=
  let headers := headers.insert headerStreamID streamID
  let headers :=
    match headers.lookup (sofaPropertyHeader headerTimeout) with
    | some v => headers.insert headerTryTimeout v
    | none => headers
  let isHeartbeat :=
    match headers.lookup (sofaPropertyHeader headerCmdCode) with
    | some cmdCodeStr => decide (convertPropertyValue cmdCodeStr .int16 = .int16 heartbeat)
    | none => false
  (isHeartbeat || (headers.lookup headerStremEnd).isSome, headers)

/-- `strconv.Atoi` of a header, narrowed; 0 when it is not there. -/
def atoiHeader (headers : HeaderMap) (name : GoString) : Int :=
  match headers.lookup (sofaPropertyHeader name) with
  | some v => (Strconv.atoi v).1
  | none => 0

/-- `BuildSofaRespMsg`: a response command without class, headers and
content. -/
def buildSofaRespMsg (headers : HeaderMap) (respStatus : Int16) : Except GoError Command :=
  let pro := UInt8.ofInt (atoiHeader headers headerProtocolCode)
  match headers.lookup (sofaPropertyHeader headerReqID) with
  | none => .error ⟨noReqIDFound⟩
  | some r =>
    let reqID := UInt32.ofInt (Strconv.atoi r).1
    let version := UInt8.ofInt (atoiHeader headers headerVersion)
    let codec := UInt8.ofInt (atoiHeader headers headerCodec)
    let v1 : BoltResponseCommand :=
      { protocol := protocolCodeV1
        cmdType := response
        cmdCode := rpcResponse
        version := version
        reqID := reqID
        codecPro := codec
        responseStatus := respStatus
        classLen := 0
        headerLen := 0
        contentLen := 0
        className := []
        headerMap := []
        content := []
        responseTimeMillis := 0
        responseHeader := none }
    if pro = protocolCodeV1 then .ok (.boltResponse v1)
    else if pro = protocolCodeV2 then
      .ok (.boltV2Response
        { v1 with
          version1 := UInt8.ofInt (atoiHeader headers headerVersion1)
          switchCode := UInt8.ofInt (atoiHeader headers headerSwitchCode) })
    else .error ⟨unSupportedProCode⟩

/-- The response status of a proxy status code: the `switch` of
`encodeSterilize`. -/
def respStatusOf (statusCode : Int) : Int16 :=
  if statusCode = routerUnavailableCode ∨ statusCode = noHealthUpstreamCode
      ∨ statusCode = upstreamOverFlowCode then responseStatusClientSendError
  else if statusCode = codecExceptionCode then responseStatusCodecException
  else if statusCode = deserialExceptionCode then responseStatusServerDeserialException
  else if statusCode = timeoutExceptionCode then responseStatusTimeout
  else responseStatusUnknown

/-- `encodeSterilize` on a header map: what goes to the encoder, and the map
as it is left (the two are one object unless a command was built). -/
def encodeSterilizeMap (s : Sender) (headerMaps : HeaderMap) : Headers × HeaderMap :=
  let headerMaps :=
    if s.direction = .serverStream then
      headerMaps.insert (sofaPropertyHeader headerReqID) s.requestID
    else headerMaps
  let headerMaps := headerMaps.erase headerStreamID
  let headerMaps := headerMaps.erase headerGlobalTimeout
  let headerMaps := headerMaps.erase headerTryTimeout
  let headerMaps := headerMaps.erase headerStremEnd
  match headerMaps.lookup headerStatus with
  | some status =>
    let headerMaps := headerMaps.erase headerStatus
    let statusCode := (Strconv.atoi status).1
    if statusCode ≠ successCode then
      match buildSofaRespMsg headerMaps (respStatusOf statusCode) with
      | .ok respHeaders => (.cmd respHeaders, headerMaps)
      | .error _ => (.map headerMaps, headerMaps)
    else (.map headerMaps, headerMaps)
  | none => (.map headerMaps, headerMaps)

/-- `encodeSterilize`: headers that are not a map pass through. -/
def encodeSterilize (s : Sender) : Headers → Headers
  | .map m => (encodeSterilizeMap s m).1
  | h => h

namespace StreamConnection

variable {ρ : Type}

/-! ## §3. Receiving. -/

/-- A call into the proxy. -/
def call (conn : StreamConnection ρ) (c : Callback ρ) : StreamConnection ρ :=
  { conn with callbacks := conn.callbacks ++ [c] }

/-- `NewStream` on a client connection: the sender, and the connection with
the stream in its map. -/
def newStream (conn : StreamConnection ρ) (streamID : GoString) (responseDecoder : ρ) :
    Sender × StreamConnection ρ :=
  (⟨streamID, streamID, .clientStream, none, none⟩,
    { conn with
      activeStreams := conn.activeStreams.insert streamID
        ⟨streamID, streamID, .clientStream, responseDecoder⟩ })

/-- `onNewStreamDetected`: the connection and the headers afterwards. -/
def onNewStreamDetected (conn : StreamConnection ρ) (streamID : GoString)
    (headers : HeaderMap) : Except Panic (StreamConnection ρ × HeaderMap) :=
  if (conn.activeStreams.lookup streamID).isSome then .ok (conn, headers)
  else
    let requestID := (headers.lookup (sofaPropertyHeader headerReqID)).getD streamID
    let headers := headers.insert (sofaPropertyHeader headerReqID) streamID
    match conn.serverCallbacks with
    | none => .error .nilDereference
    | some receiver =>
      let decoder := receiver conn.detected
      let conn := conn.call (.newStream decoder streamID requestID)
      .ok
        ({ conn with
            detected := conn.detected + 1
            activeStreams := conn.activeStreams.insert streamID
              ⟨streamID, requestID, .serverStream, decoder⟩ }, headers)

/-- `OnDecodeHeader`. -/
def onDecodeHeader (conn : StreamConnection ρ) (streamID : GoString) (headers : HeaderMap) :
    Except Panic (FilterStatus × StreamConnection ρ) := do
  let (conn, headers) ←
    if isSofaRequest headers then conn.onNewStreamDetected streamID headers
    else pure (conn, headers)
  let (endStream, headers) := decodeSterilize streamID headers
  match conn.activeStreams.lookup streamID with
  | some stream =>
    let conn := conn.call (.receiveHeaders stream.decoder headers endStream)
    return (if endStream then .stopIteration else .continue_, conn)
  | none => return (.continue_, conn)

/-- `OnDecodeData`. -/
def onDecodeData (conn : StreamConnection ρ) (streamID : GoString) (data : List UInt8) :
    FilterStatus × StreamConnection ρ :=
  match conn.activeStreams.lookup streamID with
  | some stream =>
    let conn := conn.call (.receiveData stream.decoder data true)
    if stream.direction = .clientStream then
      (.stopIteration, { conn with activeStreams := conn.activeStreams.erase stream.streamID })
    else (.stopIteration, conn)
  | none => (.stopIteration, conn)

/-- `OnDecodeError`.  A nil header map reads as empty; writing to it panics. -/
def onDecodeError (conn : StreamConnection ρ) (err : GoError) (header : Option HeaderMap) :
    Except Panic (StreamConnection ρ) :=
  if err.text = unSupportedProCode ∨ err.text = unKnownCmdcode ∨ err.text = unKnownReqtype then
    .ok { conn with closed := true }
  else if err.text = codecException then
    match header.bind (fun h => (h.lookup (sofaPropertyHeader headerReqID)).map (h, ·)) with
    | some (h, v) => do
        let (conn, h) ← conn.onNewStreamDetected v h
        match conn.activeStreams.lookup v with
        | some stream =>
          let conn := conn.call (.decodeError stream.decoder err h)
          if stream.direction = .clientStream then
            return { conn with activeStreams := conn.activeStreams.erase stream.streamID }
          else return conn
        | none => return conn
    | none => .ok { conn with closed := true }
  else .ok conn

/-- The connection as the codecs' `DecodeFilter`. -/
def filter : DecodeFilter (StreamConnection ρ) where
  onDecodeHeader := fun streamID headers conn => conn.onDecodeHeader streamID headers
  onDecodeData := fun streamID data conn => .ok (conn.onDecodeData streamID data)
  onDecodeError := fun err header conn => conn.onDecodeError err header

section Dispatch

variable (order : HeaderOrder) (spare : List UInt8)

/-- `DefaultProtocols`, calling back into the connection. -/
def protocols : Protocols (ConnWorld ρ) :=
  defaultProtocols (newBoltCommandHandler filter order spare)
    (newBoltCommandHandlerV2 filter order spare)

/-- `filter.OnDecodeError(err, nil)`. -/
def reportDecodeError (err : GoError) (w : ConnWorld ρ) :
    Except Panic (ConnWorld ρ) := do
  let conn ← w.filter.onDecodeError err none
  return { w with filter := conn }

/-- `Dispatch`, with a bound on the number of loop iterations. -/
def dispatch (clock : Nat → Int) (fuel : Nat) (w : ConnWorld ρ) (data : IoBuffer) :
    Option (Except Panic (ConnLoop ρ)) :=
  (protocols order spare).decode reportDecodeError clock fuel ⟨data, w, [], []⟩

end Dispatch

/-! ## §4. Sending. -/

/-- The stream's `endStream`: write what was encoded if the stream is still
in the map; a server stream then leaves the map. -/
def endStream (conn : StreamConnection ρ) (s : Sender) : StreamConnection ρ :=
  let conn :=
    match s.encodedHeaders with
    | some headers =>
      match conn.activeStreams.lookup s.streamID with
      | some _ =>
        { conn with written := conn.written ++ [headers.bytes ++ s.encodedData.getD []] }
      | none => conn
    | none => conn
  if s.direction = .serverStream then
    { conn with activeStreams := conn.activeStreams.erase s.streamID }
  else conn

theorem serverCallbacks_endStream (conn : StreamConnection ρ) (s : Sender) :
    (conn.endStream s).serverCallbacks = conn.serverCallbacks := by
  unfold endStream
  cases s.encodedHeaders with
  | none => cases s.direction <;> rfl
  | some buf => cases conn.activeStreams.lookup s.streamID <;> cases s.direction <;> rfl

/-- What `AppendHeaders` leaves behind. -/
structure Appended (ρ : Type) where
  err : Option GoError
  sender : Sender
  conn : StreamConnection ρ
  headers : Headers

/-- `AppendHeaders`.  The encoder is the registry's; `headers` comes back as
sterilizing and encoding leave it. -/
def appendHeaders (conn : StreamConnection ρ) (encode : Headers → EncodeResult) (s : Sender)
    (headers : Headers) (isEnd : Bool) : Except Panic (Appended ρ) := do
  let (result, encoded) ← encode (encodeSterilize s headers)
  -- a map that was encoded as a map is the caller's own
  let left :=
    match headers, encoded with
    | .map _, .map m => .map m
    | .map m, _ => .map (encodeSterilizeMap s m).2
    | h, _ => h
  match result with
  | .error err => return ⟨some err, { s with encodedHeaders := none }, conn, left⟩
  | .ok buf =>
    let s := { s with encodedHeaders := some buf }
    let conn := if isEnd then conn.endStream s else conn
    return ⟨none, s, conn, left⟩

/-- `AppendData`. -/
def appendData (conn : StreamConnection ρ) (s : Sender) (data : List UInt8) (isEnd : Bool) :
    Sender × StreamConnection ρ :=
  let s := { s with encodedData := some data }
  (s, if isEnd then conn.endStream s else conn)

end StreamConnection

/-! ## §5. What the rewriting leaves alone. -/

/-- The internal headers that `encodeSterilize` takes out. -/
def proxyHeaders : List GoString :=
  [headerStreamID, headerGlobalTimeout, headerTryTimeout, headerStremEnd]

theorem proxyHeaders_internal : ∀ k ∈ proxyHeaders, k ∈ internalHeaders := by
  simp [proxyHeaders, internalHeaders]

theorem status_not_proxy : headerStatus ∉ proxyHeaders := by decide +kernel

variable (streamID : GoString)

theorem lookup_decodeSterilize (headers : HeaderMap) {k : GoString}
    (hk : k ∉ proxyHeaders) : (decodeSterilize streamID headers).2.lookup k = headers.lookup k := by
  simp only [proxyHeaders, List.mem_cons, not_or] at hk
  simp only [decodeSterilize]
  split
  · rw [Finmap.lookup_insert_of_ne _ hk.2.2.1, Finmap.lookup_insert_of_ne _ hk.1]
  · rw [Finmap.lookup_insert_of_ne _ hk.1]

theorem lookup_decodeSterilize_streamID (headers : HeaderMap) :
    (decodeSterilize streamID headers).2.lookup headerStreamID = some streamID := by
  simp only [decodeSterilize]
  split
  · rw [Finmap.lookup_insert_of_ne _ (by decide), Finmap.lookup_insert]
  · rw [Finmap.lookup_insert]

/-- Whether headers end their stream: a heartbeat, or the mark. -/
def endsStream (headers : HeaderMap) : Bool :=
  (match headers.lookup headerCmdCode with
    | some cmdCodeStr => decide (convertPropertyValue cmdCodeStr .int16 = .int16 heartbeat)
    | none => false)
  || (headers.lookup headerStremEnd).isSome

theorem decodeSterilize_fst (headers : HeaderMap) :
    (decodeSterilize streamID headers).1 = endsStream headers := by
  have hcode : headerCmdCode ∉ proxyHeaders := by decide +kernel
  have hend : ∀ h : HeaderMap, ∀ v, (h.insert headerStreamID v).lookup headerStremEnd
      = h.lookup headerStremEnd := fun h v => Finmap.lookup_insert_of_ne _ (by decide)
  have hend' : ∀ h : HeaderMap, ∀ v, (h.insert headerTryTimeout v).lookup headerStremEnd
      = h.lookup headerStremEnd := fun h v => Finmap.lookup_insert_of_ne _ (by decide)
  have hlookup := lookup_decodeSterilize streamID headers hcode
  have hlast : (decodeSterilize streamID headers).2.lookup headerStremEnd
      = headers.lookup headerStremEnd := by
    simp only [decodeSterilize]
    split
    · rw [hend', hend]
    · rw [hend]
  show (_ || ((decodeSterilize streamID headers).2.lookup headerStremEnd).isSome) = _
  show ((match (decodeSterilize streamID headers).2.lookup headerCmdCode with
    | some cmdCodeStr => decide (convertPropertyValue cmdCodeStr .int16 = .int16 heartbeat)
    | none => false)
    || ((decodeSterilize streamID headers).2.lookup headerStremEnd).isSome) = _
  rw [hlookup, hlast]
  rfl

/-! ## §6. Delivery of headers. -/

namespace StreamConnection

variable {ρ : Type}

/-- The connection after a new stream: its entry, and one `NewStream` call. -/
def detect (conn : StreamConnection ρ) (receiver : Nat → ρ) (streamID requestID : GoString) :
    StreamConnection ρ :=
  { conn.call (.newStream (receiver conn.detected) streamID requestID) with
    detected := conn.detected + 1
    activeStreams := conn.activeStreams.insert streamID
      ⟨streamID, requestID, .serverStream, receiver conn.detected⟩ }

/-- The connection after headers were handed to `receiver`. -/
def deliver (conn : StreamConnection ρ) (receiver : ρ) (streamID : GoString)
    (headers : HeaderMap) : StreamConnection ρ :=
  conn.call (.receiveHeaders receiver (decodeSterilize streamID headers).2 (endsStream headers))

/-- Whether the content is to follow. -/
def afterHeaders (headers : HeaderMap) : FilterStatus :=
  if endsStream headers then .stopIteration else .continue_

variable {conn : StreamConnection ρ} {streamID : GoString} {headers : HeaderMap}

theorem onDecodeHeader_new {receiver : Nat → ρ} (hreq : isSofaRequest headers = true)
    (hcb : conn.serverCallbacks = some receiver)
    (hnew : conn.activeStreams.lookup streamID = none) : conn.onDecodeHeader streamID headers
      = .ok (afterHeaders (headers.insert headerReqID streamID),
        (conn.detect receiver streamID ((headers.lookup headerReqID).getD streamID)).deliver
          (receiver conn.detected) streamID (headers.insert headerReqID streamID)) := by
  simp only [onDecodeHeader, hreq, ↓reduceIte, onNewStreamDetected, hnew, hcb,
    Option.isSome_none, Bool.false_eq_true, bind, Except.bind, Finmap.lookup_insert,
    decodeSterilize_fst]
  rfl

theorem onDecodeHeader_active {stream : StreamEntry ρ} (headers : HeaderMap)
    (hactive : conn.activeStreams.lookup streamID = some stream) :
    conn.onDecodeHeader streamID headers
      = .ok (afterHeaders headers, conn.deliver stream.decoder streamID headers) := by
  have hdetect : conn.onNewStreamDetected streamID headers = .ok (conn, headers) := by
    simp only [onNewStreamDetected, hactive, Option.isSome_some, ↓reduceIte]
  cases hreq : isSofaRequest headers with
  | true =>
    simp only [onDecodeHeader, hreq, ↓reduceIte, hdetect, bind, Except.bind, hactive,
      decodeSterilize_fst]
    rfl
  | false =>
    simp only [onDecodeHeader, hreq, Bool.false_eq_true, ↓reduceIte, bind, Except.bind, pure,
      Except.pure, hactive, decodeSterilize_fst]
    rfl

theorem onDecodeHeader_unknown (hreq : isSofaRequest headers = false)
    (hnew : conn.activeStreams.lookup streamID = none) :
    conn.onDecodeHeader streamID headers = .ok (.continue_, conn) := by
  simp only [onDecodeHeader, hreq, Bool.false_eq_true, ↓reduceIte, bind, Except.bind, pure,
    Except.pure, hnew]

end StreamConnection

end Mosn.Stream.SofaRpc
