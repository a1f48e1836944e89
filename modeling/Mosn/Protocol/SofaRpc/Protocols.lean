/-
  Mosn.Protocol.SofaRpc.Protocols
  **THE PROTOCOL REGISTRY AND THE DECODE LOOP**
  (`pkg/protocol/sofarpc/protocols.go`, `handler/boltcommandhandler.go` and
  the two registrations of `codec/boltprotocol.go`).

  `decode` runs while more than one byte is unread: it picks the codec by
  the first byte, hands every decoded command to the protocol's command
  handler, and leaves the loop on an error or when no frame is complete.
  Nothing but the codec's own `Drain` moves the buffer forward, so whether
  the loop ends at all is a property of the codecs.

  The state `τ` behind a command handler (stream connection, id generator)
  is arbitrary here.  The loop state records the commands handed over and the
  errors reported; the clock is read once per command.
-/
import Mosn.Lib.Loop
import Mosn.Protocol.SofaRpc.Codec.BoltV2

namespace Mosn.Protocol.SofaRpc

open Mosn.Lib Mosn.Types Mosn.Network

/-! ## §1. Command handlers. -/

/-- `RemotingProcessor.Process`, on the state behind the filter. -/
abbrev Processor (τ : Type) : Type := Command → τ → Except Panic τ

/-- `boltCommandHandler`: the processors by command code. -/
structure BoltCommandHandler (τ : Type) where
  request : Processor τ
  response : Processor τ
  heartbeat : Processor τ

namespace BoltCommandHandler

variable {τ : Type}

/-- The `processors` map. -/
def processors (h : BoltCommandHandler τ) (cmdCode : Int16) : Option (Processor τ) :=
  if cmdCode = rpcRequest then some h.request
  else if cmdCode = rpcResponse then some h.response
  else if cmdCode = SofaRpc.heartbeat then some h.heartbeat
  else none

/-- `HandleCommand`.  Every `Command` is a `ProtoBasicCmd`. -/
def handleCommand (h : BoltCommandHandler τ) (cmd : Command) (t : τ) :
    Except Panic (Option GoError × τ) :=
  match h.processors cmd.getCmdCode with
  | some process => do
      let t ← process cmd t
      return (none, t)
  | none => .ok (some ⟨unKnownCmdcode⟩, t)

/-- Every processor returns. -/
structure Total (h : BoltCommandHandler τ) : Prop where
  request : ∀ c t, ∃ t', h.request c t = .ok t'
  response : ∀ c t, ∃ t', h.response c t = .ok t'
  heartbeat : ∀ c t, ∃ t', h.heartbeat c t = .ok t'

end BoltCommandHandler

/-! ## §2. The registry. -/

/-- `boltProtocol`, a registered protocol: encoder, decoder and command handler. -/
structure BoltProtocol (τ : Type) where
  encodeHeaders : HeaderOrder → Option SlabPool → Headers → EncodeResult
  decode : Int → IoBuffer → DecodeResult × IoBuffer
  handleCommand : Command → τ → Except Panic (Option GoError × τ)

/-- `protocols`, by its `protocolMaps`. -/
abbrev Protocols (τ : Type) : Type := UInt8 → Option (BoltProtocol τ)

/-- `BoltV1`. -/
def boltV1 {τ : Type} (h : BoltCommandHandler τ) : BoltProtocol τ where
  encodeHeaders := BoltV1Codec.encodeHeaders
  decode := BoltV1Codec.decode
  handleCommand := h.handleCommand

/-- `BoltV2`. -/
def boltV2 {τ : Type} (h : BoltCommandHandler τ) : BoltProtocol τ where
  encodeHeaders := BoltV2Codec.encodeHeaders
  decode := BoltV2Codec.decode
  handleCommand := h.handleCommand

/-- The registry after both `RegisterProtocol` calls. -/
def defaultProtocols {τ : Type} (h₁ h₂ : BoltCommandHandler τ) : Protocols τ := fun code =>
  if code = protocolCodeV1 then some (boltV1 h₁)
  else if code = protocolCodeV2 then some (boltV2 h₂)
  else none

/-- The registry with only Bolt V1. -/
def boltV1Only {τ : Type} (h : BoltCommandHandler τ) : Protocols τ := fun code =>
  if code = protocolCodeV1 then some (boltV1 h) else none

namespace Protocols

variable {τ : Type}

/-! ## §3. Encoding. -/

/-- `EncodeHeaders`: the encoder of the headers' protocol code. -/
def encodeHeaders (p : Protocols τ) (order : HeaderOrder)
    (pool : Option SlabPool) (headers : Headers) : EncodeResult :=
  let encodeBy (protocolCode : UInt8) : EncodeResult :=
    match p protocolCode with
    | some proto => proto.encodeHeaders order pool headers
    | none => .ok (.error ⟨unSupportedProCode⟩, headers)
  match headers with
  | .cmd c => encodeBy c.getProtocol
  | .map headersMap =>
    match headersMap.lookup (sofaPropertyHeader headerProtocolCode) with
    | some proto => do
        let protocolCode ← assertUint8 (convertPropertyValue proto .uint8)
        encodeBy protocolCode
    | none => .ok (.error ⟨noProCodeInHeader⟩, headers)
  | .other => .ok (.error ⟨invalidHeaderType⟩, headers)

/-! ## §4. The decode loop. -/

/-- The state at the loop head: read buffer, state behind the filter, and the
record of commands and errors so far. -/
structure LoopState (τ : Type) where
  data : IoBuffer
  env : τ
  handed : List Command
  errors : List GoError

/-- `filter.OnDecodeError` and `break`. -/
def reportError (onDecodeError : GoError → τ → Except Panic τ) (e : GoError)
    (s : LoopState τ) : Except Panic (Next (LoopState τ)) := do
  let env ← onDecodeError e s.env
  return .done { s with env := env, errors := s.errors ++ [e] }

/-- A decoded command goes to the handler; the loop goes on unless that
returns an error. -/
def handOver (proto : BoltProtocol τ) (onDecodeError : GoError → τ → Except Panic τ)
    (cmd : Command) (s : LoopState τ) : Except Panic (Next (LoopState τ)) := do
  let (err, env) ← proto.handleCommand cmd s.env
  let s := { s with env := env, handed := s.handed ++ [cmd] }
  match err with
  | some e => reportError onDecodeError e s
  | none => return .again s

/-- One pass through `for data.Len() > 1 { … }`. -/
def decodeBody (p : Protocols τ) (onDecodeError : GoError → τ → Except Panic τ)
    (clock : Nat → Int) (s : LoopState τ) : Except Panic (Next (LoopState τ)) :=
  if 1 < s.data.len then
    let protocolCode := s.data.bytes.getD 0 0
    match p protocolCode with
    | some proto =>
      match proto.decode (clock s.handed.length) s.data with
      | (.ok (some cmd), data) => handOver proto onDecodeError cmd { s with data := data }
      | (.error e, data) => reportError onDecodeError e { s with data := data }
      | (.ok none, data) => .ok (.done { s with data := data })
    | none => reportError onDecodeError ⟨unSupportedProCode⟩ s
  else .ok (.done s)

/-- `Decode`, with a bound on the number of iterations. -/
def decode (p : Protocols τ) (onDecodeError : GoError → τ → Except Panic τ)
    (clock : Nat → Int) (fuel : Nat) (s : LoopState τ) : Option (Except Panic (LoopState τ)) :=
  Loop.run (decodeBody p onDecodeError clock) fuel s

/-- `Decode` entered in `s` returns with `r`. -/
def DecodeReturns (p : Protocols τ) (onDecodeError : GoError → τ → Except Panic τ)
    (clock : Nat → Int) (s : LoopState τ) (r : Except Panic (LoopState τ)) : Prop :=
  Loop.Returns (decodeBody p onDecodeError clock) s r

end Protocols

end Mosn.Protocol.SofaRpc
