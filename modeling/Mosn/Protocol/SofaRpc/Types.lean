/-
  Mosn.Protocol.SofaRpc.Types
  **BOLT CONSTANTS AND COMMANDS** (`pkg/protocol/sofarpc/types.go`).

  Field types follow the source: `byte` is `UInt8`, `int16` is `Int16`,
  `uint32` is `UInt32`.  `int` (64 bits wide) is `Int`; every value stored in
  such a field comes from a 32-bit one.  A byte slice is the list of its
  bytes: the decoder never builds a non-nil empty slice, so a nil slice is
  the empty list.  `InvokeContext` is read by nothing and left out.
-/
import Mosn.Types.Exception

namespace Mosn.Protocol.SofaRpc

open Mosn.Lib Mosn.Types

/-! ## §1. Property header names. -/

def headerProtocolCode : GoString := str "protocol"
def headerCmdType : GoString := str "cmdtype"
def headerCmdCode : GoString := str "cmdcode"
def headerVersion : GoString := str "version"
def headerReqID : GoString := str "requestid"
def headerCodec : GoString := str "codec"
def headerTimeout : GoString := str "timeout"
def headerClassLen : GoString := str "classlen"
def headerHeaderLen : GoString := str "headerlen"
def headerContentLen : GoString := str "contentlen"
def headerClassName : GoString := str "classname"
def headerVersion1 : GoString := str "ver1"
def headerSwitchCode : GoString := str "switchcode"
def headerRespStatus : GoString := str "respstatus"
def headerRespTimeMills : GoString := str "resptimemills"

/-! ## §2. Error texts. -/

def invalidCommandType : String := "Invalid command type for encoding"
def noProCodeInHeader : String := "Protocol code not found in header when encoding"
def invalidHeaderType : String := "Invalid header type, neither map nor command"
def unKnownReqtype : String := "Unknown request type"
def unKnownCmdcode : String := "Unknown cmd code"
def noReqIDFound : String := "No request Id found in header"

/-! ## §3. Codes and lengths on the wire. -/

def protocolCodeV1 : UInt8 := 1
def protocolCodeV2 : UInt8 := 2

def requestHeaderLenV1 : Nat := 22
def requestHeaderLenV2 : Nat := 24
def responseHeaderLenV1 : Nat := 20
def responseHeaderLenV2 : Nat := 22
def lessLenV1 : Nat := responseHeaderLenV1
def lessLenV2 : Nat := responseHeaderLenV2

def response : UInt8 := 0
def request : UInt8 := 1
def requestOneway : UInt8 := 2

def heartbeat : Int16 := 0
def rpcRequest : Int16 := 1
def rpcResponse : Int16 := 2

def responseStatusSuccess : Int16 := 0
def responseStatusUnknown : Int16 := 3
def responseStatusTimeout : Int16 := 7
def responseStatusClientSendError : Int16 := 8
def responseStatusCodecException : Int16 := 9
def responseStatusServerDeserialException : Int16 := 18

def hessianSerialize : UInt8 := 1

/-! ## §4. Commands. -/

/-- `BoltRequestCommand`.  A nil `RequestHeader` is `none`. -/
structure BoltRequestCommand where
  protocol : UInt8
  cmdType : UInt8
  cmdCode : Int16
  version : UInt8
  reqID : UInt32
  codecPro : UInt8
  timeout : Int
  classLen : Int16
  headerLen : Int16
  contentLen : Int
  className : List UInt8
  headerMap : List UInt8
  content : List UInt8
  requestHeader : Option HeaderMap
  deriving DecidableEq

/-- `BoltResponseCommand`.  `responseTimeMillis` is not a field of the frame:
it is the local time at which the frame was decoded. -/
structure BoltResponseCommand where
  protocol : UInt8
  cmdType : UInt8
  cmdCode : Int16
  version : UInt8
  reqID : UInt32
  codecPro : UInt8
  responseStatus : Int16
  classLen : Int16
  headerLen : Int16
  contentLen : Int
  className : List UInt8
  headerMap : List UInt8
  content : List UInt8
  responseTimeMillis : Int
  responseHeader : Option HeaderMap
  deriving DecidableEq

/-- `BoltV2RequestCommand`. -/
structure BoltV2RequestCommand extends BoltRequestCommand where
  version1 : UInt8
  switchCode : UInt8
  deriving DecidableEq

/-- `BoltV2ResponseCommand`. -/
structure BoltV2ResponseCommand extends BoltResponseCommand where
  version1 : UInt8
  switchCode : UInt8
  deriving DecidableEq

/-- The dynamic types that implement `ProtoBasicCmd`. -/
inductive Command where
  | boltRequest (c : BoltRequestCommand)
  | boltResponse (c : BoltResponseCommand)
  | boltV2Request (c : BoltV2RequestCommand)
  | boltV2Response (c : BoltV2ResponseCommand)
  deriving DecidableEq

namespace Command

/-- `GetProtocol`. -/
def getProtocol : Command → UInt8
  | boltRequest c => c.protocol
  | boltResponse c => c.protocol
  | boltV2Request c => c.protocol
  | boltV2Response c => c.protocol

/-- `GetCmdCode`. -/
def getCmdCode : Command → Int16
  | boltRequest c => c.cmdCode
  | boltResponse c => c.cmdCode
  | boltV2Request c => c.cmdCode
  | boltV2Response c => c.cmdCode

/-- The `Content` field. -/
def content : Command → List UInt8
  | boltRequest c => c.content
  | boltResponse c => c.content
  | boltV2Request c => c.content
  | boltV2Response c => c.content

/-- The command as if it had been decoded at the local time `now`. -/
def stamp (now : Int) : Command → Command
  | boltResponse c => boltResponse { c with responseTimeMillis := now }
  | boltV2Response c => boltV2Response { c with responseTimeMillis := now }
  | c => c

@[simp] theorem getCmdCode_stamp (now : Int) (c : Command) :
    (c.stamp now).getCmdCode = c.getCmdCode := by
  cases c <;> rfl

@[simp] theorem stamp_stamp (now now' : Int) (c : Command) :
    (c.stamp now).stamp now' = c.stamp now' := by
  cases c <;> rfl

end Command

end Mosn.Protocol.SofaRpc
