/-
  Mosn.Protocol.SofaRpc.Handler
  **FROM COMMANDS TO STREAM EVENTS** (`pkg/protocol/sofarpc/handler/`,
  `pkg/protocol/util.go`).

  A processor flattens a command to a map of strings and calls back into the
  stream layer, the `DecodeFilter`.  The stream id it calls back with is:

    • for an RPC request, the next value of the process-wide generator,
    • for a response and for a heartbeat, the request id on the wire.

  The user's own headers are copied over the properties, so a user key that
  equals a property name replaces the property.

  `order` is the iteration order of the header map; `spare` is the memory
  behind the header section, which the deserializer can reach.
-/
import Mosn.Protocol.Serialize
import Mosn.Protocol.SofaRpc.Protocols

namespace Mosn.Protocol

open Mosn.Lib

/-! ## §1. Stream ids (`pkg/protocol/util.go`). -/

/-- `IDGenerator`. -/
structure IDGenerator where
  counter : UInt32
  deriving DecidableEq

/-- `StreamIDConv`. -/
def streamIDConv (streamID : UInt32) : GoString := Strconv.formatUint streamID.toNat

/-- `GetString`: the next id, and the generator afterwards. -/
def IDGenerator.getString (g : IDGenerator) : GoString × IDGenerator :=
  let n := g.counter + 1
  (Strconv.formatUint n.toNat, ⟨n⟩)

end Mosn.Protocol

namespace Mosn.Protocol.SofaRpc

open Mosn.Lib Mosn.Types Mosn.Network Mosn.Protocol.Serialize

/-! ## §2. Commands as header maps. -/

/-- `strconv.FormatUint(uint64(x), 10)` of a signed number. -/
def formatUint64 (x : Int) : GoString := Strconv.formatUint (UInt64.ofInt x).toNat

/-- The properties of a request, in the order they are stored. -/
def requestFields (c : BoltRequestCommand) : List (GoString × GoString) :=
  [(sofaPropertyHeader headerProtocolCode, formatUint64 c.protocol.toNat),
    (sofaPropertyHeader headerCmdType, formatUint64 c.cmdType.toNat),
    (sofaPropertyHeader headerCmdCode, formatUint64 c.cmdCode.toInt),
    (sofaPropertyHeader headerVersion, formatUint64 c.version.toNat),
    (sofaPropertyHeader headerReqID, formatUint64 c.reqID.toNat),
    (sofaPropertyHeader headerCodec, formatUint64 c.codecPro.toNat),
    (sofaPropertyHeader headerTimeout, formatUint64 c.timeout),
    (sofaPropertyHeader headerClassLen, formatUint64 c.classLen.toInt),
    (sofaPropertyHeader headerHeaderLen, formatUint64 c.headerLen.toInt),
    (sofaPropertyHeader headerContentLen, formatUint64 c.contentLen),
    (sofaPropertyHeader headerClassName, deSerializeString c.className)]

/-- The properties of a response, in the order they are stored. -/
def responseFields (c : BoltResponseCommand) : List (GoString × GoString) :=
  [(sofaPropertyHeader headerProtocolCode, formatUint64 c.protocol.toNat),
    (sofaPropertyHeader headerCmdType, formatUint64 c.cmdType.toNat),
    (sofaPropertyHeader headerCmdCode, formatUint64 c.cmdCode.toInt),
    (sofaPropertyHeader headerVersion, formatUint64 c.version.toNat),
    (sofaPropertyHeader headerReqID, formatUint64 c.reqID.toNat),
    (sofaPropertyHeader headerCodec, formatUint64 c.codecPro.toNat),
    (sofaPropertyHeader headerClassLen, formatUint64 c.classLen.toInt),
    (sofaPropertyHeader headerHeaderLen, formatUint64 c.headerLen.toInt),
    (sofaPropertyHeader headerContentLen, formatUint64 c.contentLen),
    (sofaPropertyHeader headerRespStatus, formatUint64 c.responseStatus.toInt),
    (sofaPropertyHeader headerRespTimeMills, formatUint64 c.responseTimeMillis),
    (sofaPropertyHeader headerClassName, deSerializeString c.className)]

section Deserialize

variable (order : HeaderOrder) (spare : List UInt8)

/-- The common part of the two deserializers: decode the header section,
store the properties, copy the decoded headers over them. -/
def allFields (headerSection : List UInt8) (fields : List (GoString × GoString)) :
    Except Panic HeaderMap := do
  let headerMap ← deSerializeMap spare headerSection ∅
  let allField := GoMap.insertAll ∅ fields
  return GoMap.insertAll allField (order headerMap).entries

/-- `deserializeRequestAllFields`. -/
def deserializeRequestAllFields (c : BoltRequestCommand) : Except Panic BoltRequestCommand := do
  let allField ← allFields order spare c.headerMap (requestFields c)
  return { c with requestHeader := some allField }

/-- `deserializeResponseAllFields`. -/
def deserializeResponseAllFields (c : BoltResponseCommand) : Except Panic BoltResponseCommand := do
  let allField ← allFields order spare c.headerMap (responseFields c)
  return { c with responseHeader := some allField }

/-- `deserializeRequestAllFieldsV2`. -/
def deserializeRequestAllFieldsV2 (c : BoltV2RequestCommand) :
    Except Panic BoltV2RequestCommand := do
  let v1 ← deserializeRequestAllFields order spare c.toBoltRequestCommand
  let requestHeader := v1.requestHeader.map fun h =>
    GoMap.insertAll h
      [(sofaPropertyHeader headerVersion1, formatUint64 c.version1.toNat),
        (sofaPropertyHeader headerSwitchCode, formatUint64 c.switchCode.toNat)]
  return { c with requestHeader := requestHeader }

/-- `deserializeResponseAllFieldsV2`. -/
def deserializeResponseAllFieldsV2 (c : BoltV2ResponseCommand) :
    Except Panic BoltV2ResponseCommand := do
  let v1 ← deserializeResponseAllFields order spare c.toBoltResponseCommand
  let responseHeader := v1.responseHeader.map fun h =>
    GoMap.insertAll h
      [(sofaPropertyHeader headerVersion1, formatUint64 c.version1.toNat),
        (sofaPropertyHeader headerSwitchCode, formatUint64 c.switchCode.toNat)]
  return { c with responseHeader := responseHeader }

end Deserialize

/-! ## §3. Processors. -/

/-- `types.DecodeFilter`, over the state `σ` of the stream layer. -/
structure DecodeFilter (σ : Type) where
  onDecodeHeader : GoString → HeaderMap → σ → Except Panic (FilterStatus × σ)
  onDecodeData : GoString → List UInt8 → σ → Except Panic (FilterStatus × σ)
  onDecodeError : GoError → Option HeaderMap → σ → Except Panic σ

/-- What a processor works on: the global generator and the stream layer. -/
structure World (σ : Type) where
  generator : IDGenerator
  filter : σ

/-- The headers of a command without content say that they end the stream. -/
def markEnd (content : List UInt8) (h : HeaderMap) : HeaderMap :=
  if content = [] then h.insert headerStremEnd (str "yes") else h

section Processors

variable {σ : Type} (filter : DecodeFilter σ)

/-- The callbacks of a processor: headers first, marked as the end of the
stream when there is no content, then the content unless the filter stops. -/
def callback (streamID : GoString) (header : Option HeaderMap) (content : List UInt8) (s : σ) :
    Except Panic σ := do
  let (status, s) ← match header with
    | some h => filter.onDecodeHeader streamID (markEnd content h) s
    | none => pure (.continue_, s)
  if status = .stopIteration then return s
  if content = [] then return s
  let (_, s) ← filter.onDecodeData streamID content s
  return s

/-- A heartbeat has a header only. -/
def callbackHeader (streamID : GoString) (header : Option HeaderMap) (s : σ) : Except Panic σ :=
  match header with
  | some h => do
      let (_, s) ← filter.onDecodeHeader streamID h s
      return s
  | none => .ok s

variable (order : HeaderOrder) (spare : List UInt8)

/-- `BoltRequestProcessor.Process`. -/
def boltRequestProcessor : Processor (World σ)
  | .boltRequest cmd, w => do
      let cmd ← deserializeRequestAllFields order spare cmd
      let (streamID, generator) := w.generator.getString
      let s ← callback filter streamID cmd.requestHeader cmd.content w.filter
      return ⟨generator, s⟩
  | _, w => .ok w

/-- `BoltRequestProcessorV2.Process`. -/
def boltRequestProcessorV2 : Processor (World σ)
  | .boltV2Request cmd, w => do
      let cmd ← deserializeRequestAllFieldsV2 order spare cmd
      let (streamID, generator) := w.generator.getString
      let s ← callback filter streamID cmd.requestHeader cmd.content w.filter
      return ⟨generator, s⟩
  | _, w => .ok w

/-- `BoltResponseProcessor.Process`. -/
def boltResponseProcessor : Processor (World σ)
  | .boltResponse cmd, w => do
      let cmd ← deserializeResponseAllFields order spare cmd
      let reqID := streamIDConv cmd.reqID
      let s ← callback filter reqID cmd.responseHeader cmd.content w.filter
      return { w with filter := s }
  | _, w => .ok w

/-- `BoltResponseProcessorV2.Process`. -/
def boltResponseProcessorV2 : Processor (World σ)
  | .boltV2Response cmd, w => do
      let cmd ← deserializeResponseAllFieldsV2 order spare cmd
      let reqID := streamIDConv cmd.reqID
      let s ← callback filter reqID cmd.responseHeader cmd.content w.filter
      return { w with filter := s }
  | _, w => .ok w

/-- `boltHbProcessor.Process`. -/
def boltHbProcessor : Processor (World σ)
  | .boltRequest cmd, w => do
      let cmd ← deserializeRequestAllFields order spare cmd
      let s ← callbackHeader filter (streamIDConv cmd.reqID) cmd.requestHeader w.filter
      return { w with filter := s }
  | .boltResponse cmd, w => do
      let cmd ← deserializeResponseAllFields order spare cmd
      let s ← callbackHeader filter (streamIDConv cmd.reqID) cmd.responseHeader w.filter
      return { w with filter := s }
  | _, w => .ok w

/-- `NewBoltCommandHandler`. -/
def newBoltCommandHandler : BoltCommandHandler (World σ) where
  request := boltRequestProcessor filter order spare
  response := boltResponseProcessor filter order spare
  heartbeat := boltHbProcessor filter order spare

/-- `NewBoltCommandHandlerV2`. -/
def newBoltCommandHandlerV2 : BoltCommandHandler (World σ) where
  request := boltRequestProcessorV2 filter order spare
  response := boltResponseProcessorV2 filter order spare
  heartbeat := boltHbProcessor filter order spare

end Processors

end Mosn.Protocol.SofaRpc
