/-
  Mosn.Protocol.SofaRpc.Adapter
  **PROPERTIES AS HEADERS** (`pkg/protocol/sofarpc/adapter.go`).

  Between codec and proxy a command is a map of strings; a property travels
  under its plain name (`SofaPropertyHeader` is the identity) and is read
  back by `ConvertPropertyValue`, which drops the parse error and keeps the
  value.  `GetPropertyValue` also DELETES what it reads: encoding a header
  map consumes it.

  `GetMap` hands out an empty map and needs no model.  The pool behind
  `GetBuffer` is not part of the repository; `SlabPool` states what its
  callers rely on.
-/
import Mosn.Network.IoBuffer
import Mosn.Protocol.SofaRpc.Types

namespace Mosn.Protocol.SofaRpc

open Mosn.Lib Mosn.Types Mosn.Network

/-- `reflect.Kind`, as far as `ConvertPropertyValue` tells kinds apart. -/
inductive Kind where
  | invalid
  | uint8
  | uint16
  | uint32
  | uint64
  | int8
  | int16
  | int
  | int64
  deriving Repr, DecidableEq

/-! ## §1. Reading a property. -/

/-- `SofaPropertyHeader`. -/
def sofaPropertyHeader (name : GoString) : GoString := name

/-- `ConvertPropertyValue`. -/
def convertPropertyValue (strValue : GoString) : Kind → GoValue
  | .uint8 => .uint8 (UInt8.ofNat (Strconv.parseUint strValue 8).1)
  | .uint16 => .uint16 (UInt16.ofNat (Strconv.parseUint strValue 16).1)
  | .uint32 => .uint32 (UInt32.ofNat (Strconv.parseUint strValue 32).1)
  | .uint64 => .uint64 (UInt64.ofNat (Strconv.parseUint strValue 64).1)
  | .int8 => .int8 (Int8.ofInt (Strconv.parseInt strValue 8).1)
  | .int16 => .int16 (Int16.ofInt (Strconv.parseInt strValue 16).1)
  | .int => .int (Strconv.parseInt strValue 32).1
  | .int64 => .int64 (Int64.ofInt (Strconv.parseInt strValue 64).1)
  | .invalid => .string strValue

/-- The kind registered for a property; the zero `Kind` for any other name. -/
def kindOf (properHeaders : List (GoString × Kind)) (name : GoString) : Kind :=
  (properHeaders.lookup name).getD .invalid

/-- `GetPropertyValue`: the value, and the headers without it. -/
def getPropertyValue (properHeaders : List (GoString × Kind)) (headers : HeaderMap)
    (name : GoString) : GoValue × HeaderMap :=
  let propertyHeaderName := sofaPropertyHeader name
  match headers.lookup propertyHeaderName with
  | some value =>
    (convertPropertyValue value (kindOf properHeaders name), headers.erase propertyHeaderName)
  | none =>
    match headers.lookup name with
    | some value => (convertPropertyValue value (kindOf properHeaders name), headers)
    | none => (.nil, headers)

/-- The value `GetPropertyValue` finds. -/
def propertyValue (properHeaders : List (GoString × Kind)) (headers : HeaderMap)
    (name : GoString) : GoValue :=
  match headers.lookup name with
  | some value => convertPropertyValue value (kindOf properHeaders name)
  | none => .nil

variable (ph : List (GoString × Kind)) (headers : HeaderMap) (name : GoString)

theorem getPropertyValue_eq :
    getPropertyValue ph headers name = (propertyValue ph headers name, headers.erase name) := by
  cases h : headers.lookup name with
  | some value => simp only [getPropertyValue, propertyValue, sofaPropertyHeader, h]
  | none =>
    have herase : headers.erase name = headers := by
      apply Finmap.ext_lookup
      intro k
      rw [GoMap.lookup_erase_ite]
      split
      next hk => rw [hk, h]
      next => rfl
    simp only [getPropertyValue, propertyValue, sofaPropertyHeader, h, herase]

theorem propertyValue_some (value : GoString) (h : headers.lookup name = some value) :
    propertyValue ph headers name = convertPropertyValue value (kindOf ph name) := by
  simp only [propertyValue, h]

theorem propertyValue_erase_ne (k : GoString) (h : ¬ k = name) :
    propertyValue ph (headers.erase k) name = propertyValue ph headers name := by
  simp only [propertyValue, Finmap.lookup_erase_ne (Ne.symm h)]

/-! ## §2. Type assertions on a property. -/

def assertUint8 : GoValue → Except Panic UInt8
  | .uint8 v => .ok v
  | _ => .error .typeAssertion

def assertUint32 : GoValue → Except Panic UInt32
  | .uint32 v => .ok v
  | _ => .error .typeAssertion

def assertInt16 : GoValue → Except Panic Int16
  | .int16 v => .ok v
  | _ => .error .typeAssertion

def assertInt : GoValue → Except Panic Int
  | .int v => .ok v
  | _ => .error .typeAssertion

def assertInt64 : GoValue → Except Panic Int64
  | .int64 v => .ok v
  | _ => .error .typeAssertion

/-! ## §3. Requests. -/

/-- `IsSofaRequest`.  A missing key reads as the empty string. -/
def isSofaRequest (headers : HeaderMap) : Bool :=
  let procode := convertPropertyValue
    ((headers.lookup (sofaPropertyHeader headerProtocolCode)).getD []) .uint8
  if procode = .uint8 protocolCodeV1 ∨ procode = .uint8 protocolCodeV2 then
    let cmdtype := convertPropertyValue
      ((headers.lookup (sofaPropertyHeader headerCmdType)).getD []) .uint8
    decide (cmdtype = .uint8 request)
  else false

/-! ## §4. Encode buffers. -/

/-- The connection's buffer pool (`buffer.SlabPool`, not in the repository):
`Take` of a possible size returns, and a buffer taken holds nothing. -/
structure SlabPool where
  take : Int → Except Panic IoBuffer
  take_ok : ∀ size, 0 ≤ size → ∃ b, take size = .ok b
  take_empty : ∀ size b, take size = .ok b → b.bytes = []

/-- `GetBuffer`: from the pool in the context, else a new buffer. -/
def getBuffer (pool : Option SlabPool) (size : Int) : Except Panic IoBuffer :=
  match pool with
  | some p => p.take size
  | none => IoBuffer.newIoBuffer size

theorem getBuffer_ok (pool : Option SlabPool) (size : Int) (h : 0 ≤ size) :
    ∃ b, getBuffer pool size = .ok b := by
  cases pool with
  | none => exact IoBuffer.newIoBuffer_ok h
  | some p => exact p.take_ok size h

theorem getBuffer_empty (pool : Option SlabPool) (size : Int) (b : IoBuffer)
    (h : getBuffer pool size = .ok b) : b.bytes = [] := by
  cases pool with
  | none => exact IoBuffer.bytes_newIoBuffer h
  | some p => exact p.take_empty size b h

end Mosn.Protocol.SofaRpc
