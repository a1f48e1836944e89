/-
  Mosn.Types.Exception
  **NAMES SHARED BY THE LAYERS** (`pkg/types/exception.go`,
  `pkg/types/stream.go`): the proxy's internal header keys, the error texts
  the stream layer compares, the reply codes of the proxy.
-/
import Mosn.Lib.GoMap
import Mosn.Lib.Strconv

namespace Mosn.Types

open Mosn.Lib

/-- Request and response headers between codec, stream layer and proxy. -/
abbrev HeaderMap : Type := GoMap GoString GoString

/-- An order to run through such a map in. -/
abbrev HeaderOrder : Type := GoMap.RangeOrder GoString GoString

/-- The dynamic values behind `interface{}` that the codecs pass around. -/
inductive GoValue where
  | nil
  | uint8 (v : UInt8)
  | uint16 (v : UInt16)
  | uint32 (v : UInt32)
  | uint64 (v : UInt64)
  | int8 (v : Int8)
  | int16 (v : Int16)
  | int (v : Int)
  | int64 (v : Int64)
  | string (v : GoString)
  | stringMap (v : HeaderMap)
  | bytes (v : List UInt8)
  deriving DecidableEq

/-- An error value: what the code can see of it is its text. -/
structure GoError where
  text : String
  deriving Repr, DecidableEq

/-! ## §1. Internal header keys. -/

def headerStatus : GoString := str "x-mosn-status"
def headerMethod : GoString := str "x-mosn-method"
def headerHost : GoString := str "x-mosn-host"
def headerPath : GoString := str "x-mosn-path"
def headerQueryString : GoString := str "x-mosn-querystring"
def headerStreamID : GoString := str "x-mosn-streamid"
def headerGlobalTimeout : GoString := str "x-mosn-global-timeout"
def headerTryTimeout : GoString := str "x-mosn-try-timeout"
def headerException : GoString := str "x-mosn-exception"
def headerStremEnd : GoString := str "x-mosn-endstream"

/-- All of them. -/
def internalHeaders : List GoString :=
  [headerStatus, headerMethod, headerHost, headerPath, headerQueryString, headerStreamID,
    headerGlobalTimeout, headerTryTimeout, headerException, headerStremEnd]

/-! ## §2. Error texts and reply codes. -/

def unSupportedProCode : String := "Protocol Code not supported"
def codecException : String := "Codec exception occurs"
def deserializeException : String := "Deserial exception occurs"

def codecExceptionCode : Int := 0
def unknownCode : Int := 2
def deserialExceptionCode : Int := 3
def successCode : Int := 200
def routerUnavailableCode : Int := 404
def noHealthUpstreamCode : Int := 500
def upstreamOverFlowCode : Int := 503
def timeoutExceptionCode : Int := 504

/-- `FilterStatus`: whether a decode event goes on to the next handler. -/
inductive FilterStatus where
  | continue_
  | stopIteration
  deriving Repr, DecidableEq

end Mosn.Types
