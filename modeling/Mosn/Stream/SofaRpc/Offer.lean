/-
  Mosn.Stream.SofaRpc.Offer
  **WHAT A FRAME OFFERS TO THE CONNECTION.**

  Seven processors look at a command, and most pairs of a frame kind and a
  command code do nothing: a response under the code of a request, a V2
  heartbeat.  `offer` is the one table of what is left: the stream id, the
  headers and the content that the connection is called back with.
-/
import Mosn.Protocol.SofaRpc.DecodeLoop
import Mosn.Stream.SofaRpc.Forward

namespace Mosn.Protocol.SofaRpc

open Mosn.Lib Mosn.Types Mosn.Network Mosn.Protocol.Serialize

/-! ## §1. The offer of a command. -/

namespace Command

/-- The request id on the wire. -/
def reqID : Command → UInt32
  | boltRequest c => c.reqID
  | boltResponse c => c.reqID
  | boltV2Request c => c.reqID
  | boltV2Response c => c.reqID

/-- The header section, not yet decoded. -/
def headerSection : Command → List UInt8
  | boltRequest c => c.headerMap
  | boltResponse c => c.headerMap
  | boltV2Request c => c.headerMap
  | boltV2Response c => c.headerMap

/-- Decoded from a request frame, one-way or not. -/
def isRequest : Command → Bool
  | boltRequest _ | boltV2Request _ => true
  | boltResponse _ | boltV2Response _ => false

/-- Decoded from a V1 frame. -/
def isV1 : Command → Bool
  | boltRequest _ | boltResponse _ => true
  | boltV2Request _ | boltV2Response _ => false

/-- What only V2 has, over everything else. -/
def fieldsV2 (version1 switchCode : UInt8) (h : HeaderMap) : HeaderMap :=
  GoMap.insertAll h
    [(sofaPropertyHeader headerVersion1, formatUint64 version1.toNat),
      (sofaPropertyHeader headerSwitchCode, formatUint64 switchCode.toNat)]

/-- The map that a processor makes of the command. -/
def headers (order : HeaderOrder) (spare : List UInt8) :
    Command → Except Panic HeaderMap
  | boltRequest c => allFields order spare c.headerMap (requestFields c)
  | boltResponse c => allFields order spare c.headerMap (responseFields c)
  | boltV2Request c =>
    (allFields order spare c.headerMap (requestFields c.toBoltRequestCommand)).map
      (fieldsV2 c.version1 c.switchCode)
  | boltV2Response c =>
    (allFields order spare c.headerMap (responseFields c.toBoltResponseCommand)).map
      (fieldsV2 c.version1 c.switchCode)

end Command

/-- The arguments of the callbacks of a processor; a heartbeat has no content
to call back with, not even an empty one. -/
structure Offer where
  streamID : GoString
  headers : HeaderMap
  content : Option (List UInt8)

/-- The headers as the connection gets them. -/
def Offer.marked (o : Offer) : HeaderMap :=
  match o.content with
  | some content => markEnd content o.headers
  | none => o.headers

/-- What the processor of a command calls back with, and the generator
afterwards. -/
def offer (order : HeaderOrder) (spare : List UInt8) (g : IDGenerator)
    (cmd : Command) : Except Panic (Option Offer × IDGenerator) :=
  if cmd.getCmdCode = rpcRequest ∧ cmd.isRequest = true then
    (cmd.headers order spare).map fun h =>
      (some ⟨g.getString.1, h, some cmd.content⟩, g.getString.2)
  else if cmd.getCmdCode = rpcResponse ∧ cmd.isRequest = false then
    (cmd.headers order spare).map fun h => (some ⟨streamIDConv cmd.reqID, h, some cmd.content⟩, g)
  else if cmd.getCmdCode = heartbeat ∧ cmd.isV1 = true then
    (cmd.headers order spare).map fun h => (some ⟨streamIDConv cmd.reqID, h, none⟩, g)
  else .ok (none, g)

/-- The callbacks for an offer. -/
def DecodeFilter.take {σ : Type} (filter : DecodeFilter σ) : Option Offer → σ → Except Panic σ
  | none, s => .ok s
  | some o, s =>
    match o.content with
    | some content => callback filter o.streamID (some o.headers) content s
    | none => callbackHeader filter o.streamID (some o.headers) s

section Handle

variable {σ : Type} (filter : DecodeFilter σ) (order : HeaderOrder)
  (spare : List UInt8)

variable (g : IDGenerator)

theorem offer_rpcRequest {cmd : Command} (hcode : cmd.getCmdCode = rpcRequest) :
    offer order spare g cmd
      = if cmd.isRequest then
          (cmd.headers order spare).map fun h =>
            (some ⟨g.getString.1, h, some cmd.content⟩, g.getString.2)
        else .ok (none, g) := by
  have h2 : rpcRequest ≠ rpcResponse := by decide
  have h0 : rpcRequest ≠ heartbeat := by decide
  simp only [offer, hcode, true_and, h2, h0, false_and, ↓reduceIte]

theorem offer_rpcResponse {cmd : Command} (hcode : cmd.getCmdCode = rpcResponse) :
    offer order spare g cmd
      = if cmd.isRequest then .ok (none, g)
        else (cmd.headers order spare).map fun h =>
          (some ⟨streamIDConv cmd.reqID, h, some cmd.content⟩, g) := by
  have h1 : rpcResponse ≠ rpcRequest := by decide
  have h0 : rpcResponse ≠ heartbeat := by decide
  cases hreq : cmd.isRequest with
  | true =>
    simp only [offer, hcode, hreq, true_and, h1, h0, false_and, ↓reduceIte, reduceCtorEq]
  | false => simp only [offer, hcode, hreq, h1, and_self, ↓reduceIte, reduceCtorEq]

theorem offer_heartbeat {cmd : Command} (hcode : cmd.getCmdCode = heartbeat) :
    offer order spare g cmd
      = if cmd.isV1 then
          (cmd.headers order spare).map fun h => (some ⟨streamIDConv cmd.reqID, h, none⟩, g)
        else .ok (none, g) := by
  have h1 : heartbeat ≠ rpcRequest := by decide
  have h2 : heartbeat ≠ rpcResponse := by decide
  simp only [offer, hcode, true_and, h1, h2, false_and, ↓reduceIte]

/-- The work of a processor, by its offer. -/
def takeOffer (cmd : Command) (w : World σ) : Except Panic (World σ) := do
  let (o, g) ← offer order spare w.generator cmd
  let s ← filter.take o w.filter
  return ⟨g, s⟩

variable {cmd : Command} (w : World σ)

theorem takeOffer_eq {o : Option Offer} {g : IDGenerator}
    (h : offer order spare w.generator cmd = .ok (o, g)) :
    takeOffer filter order spare cmd w = (filter.take o w.filter).map (World.mk g) := by
  unfold takeOffer
  rw [h]
  show filter.take o w.filter >>= _ = _
  cases filter.take o w.filter <;> rfl

theorem boltRequestProcessor_offer (hcode : cmd.getCmdCode = rpcRequest) (hv1 : cmd.isV1 = true) :
    boltRequestProcessor filter order spare cmd w = takeOffer filter order spare cmd w := by
  unfold takeOffer
  rw [offer_rpcRequest order spare _ hcode]
  cases cmd with
  | boltRequest c =>
    simp only [boltRequestProcessor, deserializeRequestAllFields, Command.headers]
    cases allFields order spare c.headerMap (requestFields c) <;> rfl
  | boltResponse c => rfl
  | boltV2Request c => cases hv1
  | boltV2Response c => cases hv1

theorem boltRequestProcessorV2_offer (hcode : cmd.getCmdCode = rpcRequest)
    (hv2 : cmd.isV1 = false) :
    boltRequestProcessorV2 filter order spare cmd w = takeOffer filter order spare cmd w := by
  unfold takeOffer
  rw [offer_rpcRequest order spare _ hcode]
  cases cmd with
  | boltRequest c => cases hv2
  | boltResponse c => cases hv2
  | boltV2Request c =>
    simp only [boltRequestProcessorV2, deserializeRequestAllFieldsV2,
      deserializeRequestAllFields, Command.headers]
    cases allFields order spare c.headerMap (requestFields c.toBoltRequestCommand) <;> rfl
  | boltV2Response c => rfl

theorem boltResponseProcessor_offer (hcode : cmd.getCmdCode = rpcResponse) (hv1 : cmd.isV1 = true) :
    boltResponseProcessor filter order spare cmd w = takeOffer filter order spare cmd w := by
  unfold takeOffer
  rw [offer_rpcResponse order spare _ hcode]
  cases cmd with
  | boltRequest c => rfl
  | boltResponse c =>
    simp only [boltResponseProcessor, deserializeResponseAllFields, Command.headers]
    cases allFields order spare c.headerMap (responseFields c) <;> rfl
  | boltV2Request c => cases hv1
  | boltV2Response c => cases hv1

theorem boltResponseProcessorV2_offer (hcode : cmd.getCmdCode = rpcResponse)
    (hv2 : cmd.isV1 = false) :
    boltResponseProcessorV2 filter order spare cmd w = takeOffer filter order spare cmd w := by
  unfold takeOffer
  rw [offer_rpcResponse order spare _ hcode]
  cases cmd with
  | boltRequest c => cases hv2
  | boltResponse c => cases hv2
  | boltV2Request c => rfl
  | boltV2Response c =>
    simp only [boltResponseProcessorV2, deserializeResponseAllFieldsV2,
      deserializeResponseAllFields, Command.headers]
    cases allFields order spare c.headerMap (responseFields c.toBoltResponseCommand) <;> rfl

theorem boltHbProcessor_offer (hcode : cmd.getCmdCode = heartbeat) :
    boltHbProcessor filter order spare cmd w = takeOffer filter order spare cmd w := by
  unfold takeOffer
  rw [offer_heartbeat order spare _ hcode]
  cases cmd with
  | boltRequest c =>
    simp only [boltHbProcessor, deserializeRequestAllFields, Command.headers]
    cases allFields order spare c.headerMap (requestFields c) <;> rfl
  | boltResponse c =>
    simp only [boltHbProcessor, deserializeResponseAllFields, Command.headers]
    cases allFields order spare c.headerMap (responseFields c) <;> rfl
  | boltV2Request c => rfl
  | boltV2Response c => rfl

/-- **The work of a processor is handing over the command's offer.** -/
theorem process_offer {process : Processor (World σ)}
    (hp : (if cmd.isV1 then newBoltCommandHandler filter order spare
      else newBoltCommandHandlerV2 filter order spare).processors cmd.getCmdCode
        = some process) :
    process cmd w = takeOffer filter order spare cmd w := by
  cases hv1 : cmd.isV1 with
  | true =>
    rw [hv1, if_pos rfl] at hp
    rcases BoltCommandHandler.processors_cases hp with ⟨hcode, rfl⟩ | ⟨hcode, rfl⟩ | ⟨hcode, rfl⟩
    · exact boltRequestProcessor_offer filter order spare w hcode hv1
    · exact boltResponseProcessor_offer filter order spare w hcode hv1
    · exact boltHbProcessor_offer filter order spare w hcode
  | false =>
    rw [hv1, if_neg Bool.false_ne_true] at hp
    rcases BoltCommandHandler.processors_cases hp with ⟨hcode, rfl⟩ | ⟨hcode, rfl⟩ | ⟨hcode, rfl⟩
    · exact boltRequestProcessorV2_offer filter order spare w hcode hv1
    · exact boltResponseProcessorV2_offer filter order spare w hcode hv1
    · exact boltHbProcessor_offer filter order spare w hcode

end Handle

end Mosn.Protocol.SofaRpc

namespace Mosn.Stream.SofaRpc

open Mosn.Lib Mosn.Types Mosn.Network Mosn.Protocol Mosn.Protocol.SofaRpc

theorem isSofaRequest_markEnd (content : List UInt8) (h : HeaderMap) :
    isSofaRequest (markEnd content h) = isSofaRequest h := by
  have hproto := lookup_markEnd content h (property_not_proxy
    (show headerProtocolCode ∈ boltProperties by simp [boltProperties]))
  have htype := lookup_markEnd content h (property_not_proxy
    (show headerCmdType ∈ boltProperties by simp [boltProperties]))
  unfold isSofaRequest sofaPropertyHeader
  rw [hproto, htype]

theorem isSofaRequest_marked (o : Offer) : isSofaRequest o.marked = isSofaRequest o.headers := by
  unfold Offer.marked
  cases o.content with
  | none => rfl
  | some content => exact isSofaRequest_markEnd content o.headers

/-! ## §2. A pass of the loop. -/

section Pass

variable {ρ : Type} (order : HeaderOrder) (spare : List UInt8) (clock : Nat → Int)
  (s : ConnLoop ρ)

/-- A pass of `Dispatch`'s loop. -/
abbrev StreamConnection.pass : Except Panic (Next (ConnLoop ρ)) :=
  Protocols.decodeBody (protocols order spare) reportDecodeError clock s

theorem handlerOf_command (k : FrameKind) (now : Int) (b : List UInt8) :
    Protocols.handlerOf (newBoltCommandHandler (StreamConnection.filter (ρ := ρ)) order spare)
        (newBoltCommandHandlerV2 StreamConnection.filter order spare) k
      = if (k.command now b).isV1 then newBoltCommandHandler StreamConnection.filter order spare
        else newBoltCommandHandlerV2 StreamConnection.filter order spare := by
  cases k <;> rfl

/-- **A pass over a frame with a known code** hands over its offer and goes
on, on what the decoder left. -/
theorem decodeBody_offer {k : FrameKind} (hk : k.At s.data.bytes) (hcmd : k.Handled s.data.bytes) :
    StreamConnection.pass order spare clock s
      = (takeOffer StreamConnection.filter order spare
          (k.command (clock s.handed.length) s.data.bytes) s.env).map fun w' => .again
            { data := k.advance s.data
              env := w'
              handed := s.handed ++ [k.command (clock s.handed.length) s.data.bytes]
              errors := s.errors } := by
  have hhandler := handlerOf_command (ρ := ρ) order spare k (clock s.handed.length) s.data.bytes
  cases hp : (Protocols.handlerOf
      (newBoltCommandHandler (StreamConnection.filter (ρ := ρ)) order spare)
      (newBoltCommandHandlerV2 StreamConnection.filter order spare) k).processors
      (k.command (clock s.handed.length) s.data.bytes).getCmdCode with
  | none =>
    rw [hhandler] at hp
    exact absurd hcmd ((BoltCommandHandler.processors_eq_none_iff _ _ _ k).mp hp)
  | some process =>
    have hbody := Protocols.decodeBody_process StreamConnection.reportDecodeError clock s _ _ hk
      hp
    rw [hhandler] at hp
    rw [← process_offer _ _ _ _ hp]
    exact hbody

theorem decodeBody_take {k : FrameKind} (hk : k.At s.data.bytes) (hcmd : k.Handled s.data.bytes)
    {o : Option Offer} {g : IDGenerator} {conn' : StreamConnection ρ}
    (hoffer : offer order spare s.env.generator (k.command (clock s.handed.length) s.data.bytes)
      = .ok (o, g))
    (htake : StreamConnection.filter.take o s.env.filter = .ok conn') :
    StreamConnection.pass order spare clock s
      = .ok (.again
          { data := k.advance s.data
            env := ⟨g, conn'⟩
            handed := s.handed ++ [k.command (clock s.handed.length) s.data.bytes]
            errors := s.errors }) := by
  rw [decodeBody_offer order spare clock s hk hcmd, takeOffer_eq _ _ _ _ hoffer, htake]
  rfl

end Pass

end Mosn.Stream.SofaRpc
