/-
  Mosn.Protocol.SofaRpc.Codec.BoltV1
  **THE BOLT V1 CODEC** (`pkg/protocol/sofarpc/codec/boltv1codec.go`).

  `decode` looks at the unread bytes of the connection's read buffer and
  either takes one complete frame off it, waits, or reports an error.
  `encodeHeaders` writes the fixed header, class name and header section of
  a command; the content is written separately.  Given a header MAP it first
  rebuilds the command (`mapToCmd`), deleting every property it reads, so the
  map that comes back is part of the result.

  Lengths are unsigned on the wire and `int16` in the command: the decoder
  cuts by the unsigned value, the encoder guards by the signed one.
-/
import Mosn.Protocol.Serialize
import Mosn.Protocol.SofaRpc.Adapter

namespace Mosn.Protocol.SofaRpc

open Mosn.Lib Mosn.Types Mosn.Network Mosn.Protocol.Serialize

/-- What a decoder returns: `(nil, err)`, `(nil, nil)` or `(cmd, nil)`. -/
abbrev DecodeResult : Type := Except GoError (Option Command)

/-- What an encoder is given. -/
inductive Headers where
  | map (m : HeaderMap)
  | cmd (c : Command)
  | other
  deriving DecidableEq

/-- What an encoder returns: the buffer or an error, and the headers it was
given as it leaves them. -/
abbrev EncodeResult : Type := Except Panic (Except GoError IoBuffer × Headers)

/-! ## §1. Sections. -/

/-- Class name, header section and content of a frame, and the position
behind them. -/
structure Sections where
  className : List UInt8
  header : List UInt8
  content : List UInt8
  read : Nat
  deriving DecidableEq

/-- The three `if len > 0` blocks that cut the sections behind the fixed
header. -/
def readSections (bytes : List UInt8) (read : Nat) (classLen headerLen : UInt16)
    (contentLen : UInt32) : Sections :=
  let (className, read) :=
    if 0 < classLen then (slice bytes read (read + classLen.toNat), read + classLen.toNat)
    else ([], read)
  let (header, read) :=
    if 0 < headerLen then (slice bytes read (read + headerLen.toNat), read + headerLen.toNat)
    else ([], read)
  let (content, read) :=
    if 0 < contentLen then (slice bytes read (read + contentLen.toNat), read + contentLen.toNat)
    else ([], read)
  ⟨className, header, content, read⟩

namespace BoltV1Codec

/-- `BoltV1PropertyHeaders`. -/
def boltV1PropertyHeaders : List (GoString × Kind) :=
  [(headerProtocolCode, .uint8), (headerCmdType, .uint8), (headerCmdCode, .int16),
    (headerVersion, .uint8), (headerReqID, .uint32), (headerCodec, .uint8),
    (headerClassLen, .int16), (headerHeaderLen, .int16), (headerContentLen, .int),
    (headerTimeout, .int), (headerRespStatus, .int16), (headerRespTimeMills, .int64)]

/-! ## §2. Encoding. -/

/-- `doEncodeRequestCommand`. -/
def doEncodeRequestCommand (pool : Option SlabPool) (cmd : BoltRequestCommand) :
    Except Panic IoBuffer := do
  let size : Int := 22 + cmd.classLen.toInt + cmd.headerMap.length
  let buf ← getBuffer pool size
  let buf := buf.write [cmd.protocol]
  let buf := buf.write [cmd.cmdType]
  let buf := buf.write (putUint16 cmd.cmdCode.toUInt16)
  let buf := buf.write [cmd.version]
  let buf := buf.write (putUint32 cmd.reqID)
  let buf := buf.write [cmd.codecPro]
  let buf := buf.write (putUint32 (intToUint32 cmd.timeout))
  let buf := buf.write (putUint16 cmd.classLen.toUInt16)
  let buf := buf.write (putUint16 (UInt16.ofNat cmd.headerMap.length))
  let buf := buf.write (putUint32 (intToUint32 cmd.contentLen))
  let buf := if 0 < cmd.classLen then buf.write cmd.className else buf
  let buf := if 0 < cmd.headerMap.length then buf.write cmd.headerMap else buf
  return buf

/-- `doEncodeResponseCommand`. -/
def doEncodeResponseCommand (pool : Option SlabPool) (cmd : BoltResponseCommand) :
    Except Panic IoBuffer := do
  let size : Int := 20 + cmd.classLen.toInt + cmd.headerMap.length
  let buf ← getBuffer pool size
  let buf := buf.write [cmd.protocol]
  let buf := buf.write [cmd.cmdType]
  let buf := buf.write (putUint16 cmd.cmdCode.toUInt16)
  let buf := buf.write [cmd.version]
  let buf := buf.write (putUint32 cmd.reqID)
  let buf := buf.write [cmd.codecPro]
  let buf := buf.write (putUint16 cmd.responseStatus.toUInt16)
  let buf := buf.write (putUint16 cmd.classLen.toUInt16)
  let buf := buf.write (putUint16 (UInt16.ofNat cmd.headerMap.length))
  let buf := buf.write (putUint32 (intToUint32 cmd.contentLen))
  let buf := if 0 < cmd.classLen then buf.write cmd.className else buf
  let buf := if 0 < cmd.headerMap.length then buf.write cmd.headerMap else buf
  return buf

/-- The unexported `encodeHeaders`: by the command's dynamic type. -/
def encodeHeadersCmd (pool : Option SlabPool) : Option Command →
    Except Panic (Except GoError IoBuffer)
  | some (.boltRequest c) => (doEncodeRequestCommand pool c).map .ok
  | some (.boltResponse c) => (doEncodeResponseCommand pool c).map .ok
  | _ => .ok (.error ⟨invalidCommandType⟩)

/-- `mapToCmd`: the command a header map stands for (`none`: nil), and the
map without the properties that were read.  The type assertions run when the
command is built. -/
def mapToCmd (order : HeaderOrder) (headers : HeaderMap) :
    Except Panic (Option Command × HeaderMap) :=
  if headers.len < 10 then .ok (none, headers)
  else
    let (protocolCode, headers) := getPropertyValue boltV1PropertyHeaders headers headerProtocolCode
    let (cmdType, headers) := getPropertyValue boltV1PropertyHeaders headers headerCmdType
    let (cmdCode, headers) := getPropertyValue boltV1PropertyHeaders headers headerCmdCode
    let (version, headers) := getPropertyValue boltV1PropertyHeaders headers headerVersion
    let (requestID, headers) := getPropertyValue boltV1PropertyHeaders headers headerReqID
    let (codec, headers) := getPropertyValue boltV1PropertyHeaders headers headerCodec
    let (classLength, headers) := getPropertyValue boltV1PropertyHeaders headers headerClassLen
    let (headerLength, headers) := getPropertyValue boltV1PropertyHeaders headers headerHeaderLen
    let (contentLength, headers) := getPropertyValue boltV1PropertyHeaders headers headerContentLen
    let (className, headers) := getPropertyValue boltV1PropertyHeaders headers headerClassName
    let class_ := serialize order className
    -- whatever is left in the map goes out as the user's header section
    if cmdCode = .int16 rpcRequest then
      let (timeout, headers) := getPropertyValue boltV1PropertyHeaders headers headerTimeout
      let header := serialize order (.stringMap headers)
      do
        let request : BoltRequestCommand :=
          { protocol := ← assertUint8 protocolCode
            cmdType := ← assertUint8 cmdType
            cmdCode := ← assertInt16 cmdCode
            version := ← assertUint8 version
            reqID := ← assertUint32 requestID
            codecPro := ← assertUint8 codec
            timeout := ← assertInt timeout
            classLen := ← assertInt16 classLength
            headerLen := ← assertInt16 headerLength
            contentLen := ← assertInt contentLength
            className := class_
            headerMap := header
            content := []
            requestHeader := none }
        return (some (.boltRequest request), headers)
    else if cmdCode = .int16 rpcResponse ∨ cmdCode = .int16 heartbeat then
      let (responseStatus, headers) :=
        getPropertyValue boltV1PropertyHeaders headers headerRespStatus
      let (responseTime, headers) :=
        getPropertyValue boltV1PropertyHeaders headers headerRespTimeMills
      let header := serialize order (.stringMap headers)
      do
        let response : BoltResponseCommand :=
          { protocol := ← assertUint8 protocolCode
            cmdType := ← assertUint8 cmdType
            cmdCode := ← assertInt16 cmdCode
            version := ← assertUint8 version
            reqID := ← assertUint32 requestID
            codecPro := ← assertUint8 codec
            responseStatus := ← assertInt16 responseStatus
            classLen := ← assertInt16 classLength
            headerLen := ← assertInt16 headerLength
            contentLen := ← assertInt contentLength
            className := class_
            headerMap := header
            content := []
            responseTimeMillis := (← assertInt64 responseTime).toInt
            responseHeader := none }
        return (some (.boltResponse response), headers)
    else .ok (none, headers)

/-- `EncodeHeaders`. -/
def encodeHeaders (order : HeaderOrder) (pool : Option SlabPool) :
    Headers → EncodeResult
  | .map headerMap => do
      let (cmd, headerMap) ← mapToCmd order headerMap
      let r ← encodeHeadersCmd pool cmd
      return (r, .map headerMap)
  | .cmd c => do
      let r ← encodeHeadersCmd pool (some c)
      return (r, .cmd c)
  | .other => do
      let r ← encodeHeadersCmd pool none
      return (r, .other)

/-! ## §3. Decoding. -/

/-- The request branch of `Decode`: the command and the number of bytes to
drain, or nothing while the frame is incomplete. -/
def decodeRequest (bytes : List UInt8) : Option (BoltRequestCommand × Nat) :=
  let readableBytes := bytes.length
  if requestHeaderLenV1 ≤ readableBytes then
    let cmdCode := uint16 (slice bytes 2 4)
    let ver2 := bytes.getD 4 0
    let requestID := uint32 (slice bytes 5 9)
    let codec := bytes.getD 9 0
    let timeout := uint32 (slice bytes 10 14)
    let classLen := uint16 (slice bytes 14 16)
    let headerLen := uint16 (slice bytes 16 18)
    let contentLen := uint32 (slice bytes 18 22)
    let read := requestHeaderLenV1
    if read + classLen.toNat + headerLen.toNat + contentLen.toNat ≤ readableBytes then
      let s := readSections bytes read classLen headerLen contentLen
      some
        ({ protocol := protocolCodeV1
           cmdType := bytes.getD 1 0
           cmdCode := cmdCode.toInt16
           version := ver2
           reqID := requestID
           codecPro := codec
           -- `int` of a `uint32`: never negative; `int16` of a `uint16`: negative from 2¹⁵ on
           timeout := timeout.toNat
           classLen := classLen.toInt16
           headerLen := headerLen.toInt16
           contentLen := contentLen.toNat
           className := s.className
           headerMap := s.header
           content := s.content
           requestHeader := none }, s.read)
    else none
  else none

/-- The response branch of `Decode`; `now` is the clock in milliseconds. -/
def decodeResponse (now : Int) (bytes : List UInt8) : Option (BoltResponseCommand × Nat) :=
  let readableBytes := bytes.length
  if responseHeaderLenV1 ≤ readableBytes then
    let cmdCode := uint16 (slice bytes 2 4)
    let ver2 := bytes.getD 4 0
    let requestID := uint32 (slice bytes 5 9)
    let codec := bytes.getD 9 0
    let status := uint16 (slice bytes 10 12)
    let classLen := uint16 (slice bytes 12 14)
    let headerLen := uint16 (slice bytes 14 16)
    let contentLen := uint32 (slice bytes 16 20)
    let read := responseHeaderLenV1
    if read + classLen.toNat + headerLen.toNat + contentLen.toNat ≤ readableBytes then
      let s := readSections bytes read classLen headerLen contentLen
      some
        ({ protocol := protocolCodeV1
           cmdType := bytes.getD 1 0
           cmdCode := cmdCode.toInt16
           version := ver2
           reqID := requestID
           codecPro := codec
           responseStatus := status.toInt16
           classLen := classLen.toInt16
           headerLen := headerLen.toInt16
           contentLen := contentLen.toNat
           className := s.className
           headerMap := s.header
           content := s.content
           responseTimeMillis := now
           responseHeader := none }, s.read)
    else none
  else none

/-- The error of a frame whose type byte is none of the three. -/
def unknownTypeError (dataType : UInt8) : GoError :=
  ⟨"Decode Error, type = " ++ unKnownReqtype ++ ", value = " ++ toString dataType.toNat⟩

/-- `Decode`: the result and the buffer afterwards. -/
def decode (now : Int) (data : IoBuffer) : DecodeResult × IoBuffer :=
  let readableBytes := data.len
  if lessLenV1 ≤ readableBytes then
    let bytes := data.bytes
    let dataType := bytes.getD 1 0
    if dataType = request ∨ dataType = requestOneway then
      match decodeRequest bytes with
      | some (cmd, read) => (.ok (some (.boltRequest cmd)), data.drain read)
      | none => (.ok none, data)
    else if dataType = response then
      match decodeResponse now bytes with
      | some (cmd, read) => (.ok (some (.boltResponse cmd)), data.drain read)
      | none => (.ok none, data)
    else (.error (unknownTypeError dataType), data)
  else (.ok none, data)

end BoltV1Codec

/-! ## §4. Heartbeats (`codec/boltprotocol.go`). -/

/-- `NewBoltHeartbeat`. -/
def newBoltHeartbeat (requestID : UInt32) : BoltRequestCommand where
  protocol := protocolCodeV1
  cmdType := request
  cmdCode := heartbeat
  version := 1
  reqID := requestID
  codecPro := hessianSerialize
  timeout := -1
  classLen := 0
  headerLen := 0
  contentLen := 0
  className := []
  headerMap := []
  content := []
  requestHeader := none

end Mosn.Protocol.SofaRpc
