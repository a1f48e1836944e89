/-
  Mosn.Protocol.SofaRpc.Codec.BoltV2
  **THE BOLT V2 CODEC** (`pkg/protocol/sofarpc/codec/boltv2codec.go`).

  The V2 frame is the V1 frame with a version byte behind the protocol code
  and a switch byte behind the codec.  Three differences to V1 that are not
  in the format:

    • a decoded command carries the V1 protocol code,
    • the response branch of `decode` does not drain what it has read,
    • `mapToCmd` asserts the V1 command to be a struct where V1 returns a
      pointer, so a header map never becomes a V2 command.
-/
import Mosn.Protocol.SofaRpc.Codec.BoltV1

namespace Mosn.Protocol.SofaRpc.BoltV2Codec

open Mosn.Lib Mosn.Types Mosn.Network Mosn.Protocol.Serialize

/-- `BoltV2PropertyHeaders`. -/
def boltV2PropertyHeaders : List (GoString × Kind) :=
  [(headerProtocolCode, .uint8), (headerCmdType, .uint8), (headerCmdCode, .int16),
    (headerVersion, .uint8), (headerReqID, .uint32), (headerCodec, .uint8),
    (headerClassLen, .int16), (headerHeaderLen, .int16), (headerContentLen, .int),
    (headerTimeout, .int), (headerRespStatus, .int16), (headerRespTimeMills, .int64),
    (headerVersion1, .uint8), (headerSwitchCode, .uint8)]

/-! ## §1. Encoding. -/

/-- `doEncodeRequestCommand`. -/
def doEncodeRequestCommand (pool : Option SlabPool) (cmd : BoltV2RequestCommand) :
    Except Panic IoBuffer := do
  let size : Int := 22 + cmd.classLen.toInt + cmd.headerMap.length
  let buf ← getBuffer pool size
  let buf := buf.write [cmd.protocol]
  let buf := buf.write [cmd.version1]
  let buf := buf.write [cmd.cmdType]
  let buf := buf.write (putUint16 cmd.cmdCode.toUInt16)
  let buf := buf.write [cmd.version]
  let buf := buf.write (putUint32 cmd.reqID)
  let buf := buf.write [cmd.codecPro]
  let buf := buf.write [cmd.switchCode]
  let buf := buf.write (putUint32 (intToUint32 cmd.timeout))
  let buf := buf.write (putUint16 cmd.classLen.toUInt16)
  let buf := buf.write (putUint16 (UInt16.ofNat cmd.headerMap.length))
  let buf := buf.write (putUint32 (intToUint32 cmd.contentLen))
  let buf := if 0 < cmd.classLen then buf.write cmd.className else buf
  let buf := if 0 < cmd.headerMap.length then buf.write cmd.headerMap else buf
  return buf

/-- `doEncodeResponseCommand`. -/
def doEncodeResponseCommand (pool : Option SlabPool) (cmd : BoltV2ResponseCommand) :
    Except Panic IoBuffer := do
  let size : Int := 20 + cmd.classLen.toInt + cmd.headerMap.length
  let buf ← getBuffer pool size
  let buf := buf.write [cmd.protocol]
  let buf := buf.write [cmd.version1]
  let buf := buf.write [cmd.cmdType]
  let buf := buf.write (putUint16 cmd.cmdCode.toUInt16)
  let buf := buf.write [cmd.version]
  let buf := buf.write (putUint32 cmd.reqID)
  let buf := buf.write [cmd.codecPro]
  let buf := buf.write [cmd.switchCode]
  let buf := buf.write (putUint16 cmd.responseStatus.toUInt16)
  let buf := buf.write (putUint16 cmd.classLen.toUInt16)
  let buf := buf.write (putUint16 (UInt16.ofNat cmd.headerMap.length))
  let buf := buf.write (putUint32 (intToUint32 cmd.contentLen))
  let buf := if 0 < cmd.classLen then buf.write cmd.className else buf
  let buf := if 0 < cmd.headerMap.length then buf.write cmd.headerMap else buf
  return buf

/-- The unexported `encodeHeaders`: by the command's dynamic type. -/
def encodeHeadersCmd (pool : Option SlabPool) : Option Command →
    Except Panic (Except GoError IoBuffer)
  | some (.boltV2Request c) => (doEncodeRequestCommand pool c).map .ok
  | some (.boltV2Response c) => (doEncodeResponseCommand pool c).map .ok
  | _ => .ok (.error ⟨invalidCommandType⟩)

/-- `mapToCmd`.  V1's `mapToCmd` returns `*BoltRequestCommand`,
`*BoltResponseCommand` or nil; neither struct assertion on it succeeds, so
the two properties are read and the result is nil. -/
def mapToCmd (order : HeaderOrder) (headers : HeaderMap) :
    Except Panic (Option Command × HeaderMap) :=
  if headers.len < 12 then .ok (none, headers)
  else do
    let (_cmdV1, headers) ← BoltV1Codec.mapToCmd order headers
    let (_ver1, headers) := getPropertyValue boltV2PropertyHeaders headers headerVersion1
    let (_switchcode, headers) := getPropertyValue boltV2PropertyHeaders headers headerSwitchCode
    return (none, headers)

/-- `EncodeHeaders`. -/
def encodeHeaders (order : HeaderOrder) (pool : Option SlabPool) :
    Headers → EncodeResult
  | .map headerMap => do
      let (cmd, headerMap) ← mapToCmd order headerMap
      let r ← encodeHeadersCmd pool cmd
      return (r, .map headerMap)
  | .cmd c => do
      let r ← encodeHeadersCmd pool (some c)
      return (r, .cmd c)
  | .other => do
      let r ← encodeHeadersCmd pool none
      return (r, .other)

/-! ## §2. Decoding. -/

/-- The request branch of `Decode`. -/
def decodeRequest (bytes : List UInt8) : Option (BoltV2RequestCommand × Nat) :=
  let readableBytes := bytes.length
  if requestHeaderLenV2 ≤ readableBytes then
    let cmdCode := uint16 (slice bytes 3 5)
    let ver2 := bytes.getD 5 0
    let requestID := uint32 (slice bytes 6 10)
    let codec := bytes.getD 10 0
    let switchCode := bytes.getD 11 0
    let timeout := uint32 (slice bytes 12 16)
    let classLen := uint16 (slice bytes 16 18)
    let headerLen := uint16 (slice bytes 18 20)
    let contentLen := uint32 (slice bytes 20 24)
    let read := requestHeaderLenV2
    if read + classLen.toNat + headerLen.toNat + contentLen.toNat ≤ readableBytes then
      let s := readSections bytes read classLen headerLen contentLen
      some
        ({ protocol := protocolCodeV1
           cmdType := bytes.getD 2 0
           cmdCode := cmdCode.toInt16
           version := ver2
           reqID := requestID
           codecPro := codec
           timeout := timeout.toNat
           classLen := classLen.toInt16
           headerLen := headerLen.toInt16
           contentLen := contentLen.toNat
           className := s.className
           headerMap := s.header
           content := s.content
           requestHeader := none
           version1 := bytes.getD 1 0
           switchCode := switchCode }, s.read)
    else none
  else none

/-- The response branch of `Decode`. -/
def decodeResponse (now : Int) (bytes : List UInt8) : Option BoltV2ResponseCommand :=
  let readableBytes := bytes.length
  if responseHeaderLenV2 ≤ readableBytes then
    let cmdCode := uint16 (slice bytes 3 5)
    let ver2 := bytes.getD 5 0
    let requestID := uint32 (slice bytes 6 10)
    let codec := bytes.getD 10 0
    let switchCode := bytes.getD 11 0
    let status := uint16 (slice bytes 12 14)
    let classLen := uint16 (slice bytes 14 16)
    let headerLen := uint16 (slice bytes 16 18)
    let contentLen := uint32 (slice bytes 18 22)
    let read := responseHeaderLenV2
    if read + classLen.toNat + headerLen.toNat + contentLen.toNat ≤ readableBytes then
      let s := readSections bytes read classLen headerLen contentLen
      some
        { protocol := protocolCodeV1
          cmdType := bytes.getD 2 0
          cmdCode := cmdCode.toInt16
          version := ver2
          reqID := requestID
          codecPro := codec
          responseStatus := status.toInt16
          classLen := classLen.toInt16
          headerLen := headerLen.toInt16
          contentLen := contentLen.toNat
          className := s.className
          headerMap := s.header
          content := s.content
          responseTimeMillis := now
          responseHeader := none
          version1 := bytes.getD 1 0
          switchCode := switchCode }
    else none
  else none

/-- `Decode`.  Only the request branch drains the buffer. -/
def decode (now : Int) (data : IoBuffer) : DecodeResult × IoBuffer :=
  let readableBytes := data.len
  if lessLenV2 ≤ readableBytes then
    let bytes := data.bytes
    let dataType := bytes.getD 2 0
    if dataType = request ∨ dataType = requestOneway then
      match decodeRequest bytes with
      | some (cmd, read) => (.ok (some (.boltV2Request cmd)), data.drain read)
      | none => (.ok none, data)
    else if dataType = response then
      match decodeResponse now bytes with
      | some cmd => (.ok (some (.boltV2Response cmd)), data)
      | none => (.ok none, data)
    else (.error (BoltV1Codec.unknownTypeError dataType), data)
  else (.ok none, data)

end Mosn.Protocol.SofaRpc.BoltV2Codec
