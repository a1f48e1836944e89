/-
  Mosn.Protocol.SofaRpc.Codec.RoundTripV2
  **WIRE → COMMAND → WIRE** (Bolt V2).

  The V2 encoder writes a frame as the V2 decoder reads it.  But which encoder
  runs is decided by the command's `Protocol` field, and the V2 decoder fills
  in V1's code: the V1 encoder then refuses the type of the command.
-/
import Mosn.Protocol.SofaRpc.Codec.RoundTrip
import Mosn.Protocol.SofaRpc.DecodeLoop

namespace Mosn.Protocol.SofaRpc

open Mosn.Lib Mosn.Types Mosn.Network

/-! ## §1. What the V2 encoders write. -/

/-- The fixed header of a V2 request. -/
def requestFixedV2 (cmd : BoltV2RequestCommand) : List UInt8 :=
  [cmd.protocol] ++ [cmd.version1] ++ [cmd.cmdType] ++ putUint16 cmd.cmdCode.toUInt16
    ++ [cmd.version] ++ putUint32 cmd.reqID ++ [cmd.codecPro] ++ [cmd.switchCode]
    ++ putUint32 (intToUint32 cmd.timeout) ++ putUint16 cmd.classLen.toUInt16
    ++ putUint16 (UInt16.ofNat cmd.headerMap.length) ++ putUint32 (intToUint32 cmd.contentLen)

/-- The fixed header of a V2 response. -/
def responseFixedV2 (cmd : BoltV2ResponseCommand) : List UInt8 :=
  [cmd.protocol] ++ [cmd.version1] ++ [cmd.cmdType] ++ putUint16 cmd.cmdCode.toUInt16
    ++ [cmd.version] ++ putUint32 cmd.reqID ++ [cmd.codecPro] ++ [cmd.switchCode]
    ++ putUint16 cmd.responseStatus.toUInt16 ++ putUint16 cmd.classLen.toUInt16
    ++ putUint16 (UInt16.ofNat cmd.headerMap.length) ++ putUint32 (intToUint32 cmd.contentLen)

namespace BoltV2Codec

variable {pool : Option SlabPool} {buf : IoBuffer}

theorem doEncodeRequestCommand_bytes {cmd : BoltV2RequestCommand}
    (h : doEncodeRequestCommand pool cmd = .ok buf) :
    buf.bytes = requestFixedV2 cmd ++ writtenClass cmd.classLen cmd.className ++ cmd.headerMap := by
  simp only [doEncodeRequestCommand, bind_eq_ok] at h
  obtain ⟨b, hb, hwritten⟩ := h
  cases hwritten
  refine (bytes_sections _ _ _ _).trans ?_
  simp only [IoBuffer.bytes_write, getBuffer_empty _ _ _ hb, List.nil_append]
  rfl

theorem doEncodeResponseCommand_bytes {cmd : BoltV2ResponseCommand}
    (h : doEncodeResponseCommand pool cmd = .ok buf) : buf.bytes
      = responseFixedV2 cmd ++ writtenClass cmd.classLen cmd.className ++ cmd.headerMap := by
  simp only [doEncodeResponseCommand, bind_eq_ok] at h
  obtain ⟨b, hb, hwritten⟩ := h
  cases hwritten
  refine (bytes_sections _ _ _ _).trans ?_
  simp only [IoBuffer.bytes_write, getBuffer_empty _ _ _ hb, List.nil_append]
  rfl

theorem doEncodeRequestCommand_ok (pool : Option SlabPool) (cmd : BoltV2RequestCommand)
    (h : 0 ≤ cmd.classLen.toInt) : ∃ buf, doEncodeRequestCommand pool cmd = .ok buf := by
  obtain ⟨b, hb⟩ := getBuffer_ok pool (22 + cmd.classLen.toInt + cmd.headerMap.length) (by omega)
  simp only [doEncodeRequestCommand, hb]
  exact ⟨_, rfl⟩

theorem doEncodeResponseCommand_ok (pool : Option SlabPool) (cmd : BoltV2ResponseCommand)
    (h : 0 ≤ cmd.classLen.toInt) : ∃ buf, doEncodeResponseCommand pool cmd = .ok buf := by
  obtain ⟨b, hb⟩ := getBuffer_ok pool (20 + cmd.classLen.toInt + cmd.headerMap.length) (by omega)
  simp only [doEncodeResponseCommand, hb]
  exact ⟨_, rfl⟩

end BoltV2Codec

/-! ## §2. Writing what was decoded, under V2's own code. -/

variable {b : List UInt8}

theorem requestFixedV2_requestCommandV2 (h : FrameKind.requestV2.At b) :
    requestFixedV2 { requestCommandV2 b with protocol := protocolCodeV2 } = slice b 0 24 := by
  have hlen : 24 ≤ b.length := h.2.fixed_le
  have hcode : protocolCodeV2 = b.getD 0 0 := h.code_eq.symm
  have hhead : UInt16.ofNat (FrameKind.requestV2.layout.sections b).header.length
      = uint16 (slice b 18 20) := by
    rw [(Layout.length_sections h.2).2.1]
    rfl
  simp only [requestFixedV2, requestCommandV2, hhead, hcode, UInt16.toUInt16_toInt16,
    intToUint32_ofNat_toNat]
  simp (disch := omega) only [← slice_one b 0, putUint16_uint16, putUint32_uint32,
    slice_append_slice]

theorem responseFixedV2_responseCommandV2 (now : Int) (h : FrameKind.responseV2.At b) :
    responseFixedV2 { responseCommandV2 now b with protocol := protocolCodeV2 } = slice b 0 22 := by
  have hlen : 22 ≤ b.length := h.2.fixed_le
  have hcode : protocolCodeV2 = b.getD 0 0 := h.code_eq.symm
  have hhead : UInt16.ofNat (FrameKind.responseV2.layout.sections b).header.length
      = uint16 (slice b 16 18) := by
    rw [(Layout.length_sections h.2).2.1]
    rfl
  simp only [responseFixedV2, responseCommandV2, hhead, hcode, UInt16.toUInt16_toInt16,
    intToUint32_ofNat_toNat]
  simp (disch := omega) only [← slice_one b 0, putUint16_uint16, putUint32_uint32,
    slice_append_slice]

theorem encode_requestCommandV2 (pool : Option SlabPool)
    (hk : FrameKind.requestV2.At b) (hexact : b.length = FrameKind.requestV2.layout.frameLen b)
    (hclass : FrameKind.requestV2.layout.classLen b < 2 ^ 15) :
    ∃ buf, BoltV2Codec.doEncodeRequestCommand pool
        { requestCommandV2 b with protocol := protocolCodeV2 } = .ok buf
      ∧ buf.bytes ++ (FrameKind.requestV2.layout.sections b).content = b := by
  refine (Layout.encode_iff hk.2 hexact (requestFixedV2_requestCommandV2 hk)
    (uint16_slice b 16) ?_ ?_).mpr hclass
  · exact fun _ hbuf => BoltV2Codec.doEncodeRequestCommand_bytes hbuf
  · intro hnonneg
    exact BoltV2Codec.doEncodeRequestCommand_ok pool _ hnonneg

theorem encode_responseCommandV2 (pool : Option SlabPool) (now : Int)
    (hk : FrameKind.responseV2.At b) (hexact : b.length = FrameKind.responseV2.layout.frameLen b)
    (hclass : FrameKind.responseV2.layout.classLen b < 2 ^ 15) :
    ∃ buf, BoltV2Codec.doEncodeResponseCommand pool
        { responseCommandV2 now b with protocol := protocolCodeV2 } = .ok buf
      ∧ buf.bytes ++ (FrameKind.responseV2.layout.sections b).content = b := by
  refine (Layout.encode_iff hk.2 hexact (responseFixedV2_responseCommandV2 now hk)
    (uint16_slice b 14) ?_ ?_).mpr hclass
  · exact fun _ hbuf => BoltV2Codec.doEncodeResponseCommand_bytes hbuf
  · intro hnonneg
    exact BoltV2Codec.doEncodeResponseCommand_ok pool _ hnonneg

/-! ## §3. The registry. -/

/-- The command with another protocol code. -/
def Command.withProtocol (code : UInt8) : Command → Command
  | .boltRequest c => .boltRequest { c with protocol := code }
  | .boltResponse c => .boltResponse { c with protocol := code }
  | .boltV2Request c => .boltV2Request { c with protocol := code }
  | .boltV2Response c => .boltV2Response { c with protocol := code }

/-- A command of one of the two V2 types. -/
def Command.IsV2 : Command → Prop
  | .boltV2Request _ | .boltV2Response _ => True
  | .boltRequest _ | .boltResponse _ => False

theorem FrameKind.isV2_command (now : Int) (b : List UInt8) {k : FrameKind}
    (h : k.code = protocolCodeV2) : (k.command now b).IsV2 := by
  cases k with
  | requestV1 => exact absurd h (by decide)
  | responseV1 => exact absurd h (by decide)
  | requestV2 => trivial
  | responseV2 => trivial

theorem FrameKind.getProtocol_command (now : Int) (b : List UInt8) {k : FrameKind}
    (h : k.code = protocolCodeV2) : (k.command now b).getProtocol = protocolCodeV1 := by
  cases k with
  | requestV1 | responseV1 => exact absurd h (by decide)
  | requestV2 | responseV2 => rfl

theorem Command.isV2_withProtocol (code : UInt8) (cmd : Command) :
    (cmd.withProtocol code).IsV2 ↔ cmd.IsV2 := by
  cases cmd <;> rfl

theorem Command.eq_withProtocol {cmd d : Command} (h : cmd.withProtocol d.getProtocol = d) :
    cmd = d.withProtocol cmd.getProtocol := by
  rw [← h]
  cases cmd <;> rfl

section Registry

variable {τ : Type} (h₁ h₂ : BoltCommandHandler τ) (order : HeaderOrder)
  (pool : Option SlabPool)

/-- `EncodeHeaders` of the command, followed by its content, is the frame `f`. -/
def Reencodes (cmd : Command) (f : List UInt8) : Prop :=
  ∃ buf left, (defaultProtocols h₁ h₂).encodeHeaders order pool (.cmd cmd) = .ok (.ok buf, left)
    ∧ buf.bytes ++ cmd.content = f

variable {cmd : Command} {f : List UInt8}

theorem encodeHeaders_codeV1 (h : cmd.getProtocol = protocolCodeV1) :
    (defaultProtocols h₁ h₂).encodeHeaders order pool (.cmd cmd)
      = BoltV1Codec.encodeHeaders order pool (.cmd cmd) := by
  simp only [Protocols.encodeHeaders, defaultProtocols, h, if_true]
  rfl

theorem encodeHeaders_codeV2 (h : cmd.getProtocol = protocolCodeV2) :
    (defaultProtocols h₁ h₂).encodeHeaders order pool (.cmd cmd)
      = BoltV2Codec.encodeHeaders order pool (.cmd cmd) := by
  simp only [Protocols.encodeHeaders, defaultProtocols, h,
    if_neg (show protocolCodeV2 ≠ protocolCodeV1 by decide), if_true]
  rfl

theorem encodeHeaders_code_other (hv1 : cmd.getProtocol ≠ protocolCodeV1)
    (hv2 : cmd.getProtocol ≠ protocolCodeV2) :
    (defaultProtocols h₁ h₂).encodeHeaders order pool (.cmd cmd)
      = .ok (.error ⟨unSupportedProCode⟩, .cmd cmd) := by
  simp only [Protocols.encodeHeaders, defaultProtocols, if_neg hv1, if_neg hv2]

/-- **A V2 command is written only under V2's code**: under V1's the V1
encoder refuses its type, under any other there is no encoder. -/
theorem Reencodes.getProtocol_eq (hv2 : cmd.IsV2)
    (h : Reencodes h₁ h₂ order pool cmd f) : cmd.getProtocol = protocolCodeV2 := by
  obtain ⟨buf, left, henc, -⟩ := h
  by_contra hne
  by_cases hv1 : cmd.getProtocol = protocolCodeV1
  · rw [encodeHeaders_codeV1 h₁ h₂ order pool hv1] at henc
    cases cmd with
    | boltRequest c => exact hv2
    | boltResponse c => exact hv2
    | boltV2Request c => cases henc
    | boltV2Response c => cases henc
  · rw [encodeHeaders_code_other h₁ h₂ order pool hv1 hne] at henc
    cases henc

theorem reencodes_iff {enc : Except Panic IoBuffer} (h : cmd.getProtocol = protocolCodeV2)
    (henc : BoltV2Codec.encodeHeadersCmd pool (some cmd) = enc.map Except.ok) :
    Reencodes h₁ h₂ order pool cmd f ↔ ∃ buf, enc = .ok buf ∧ buf.bytes ++ cmd.content = f := by
  unfold Reencodes
  rw [encodeHeaders_codeV2 h₁ h₂ order pool h]
  simp only [BoltV2Codec.encodeHeaders, henc]
  cases enc with
  | error e => exact ⟨fun ⟨_, _, h, _⟩ => (nomatch h), fun ⟨_, h, _⟩ => (nomatch h)⟩
  | ok b =>
    constructor
    · rintro ⟨buf, left, henc, hf⟩
      cases henc
      exact ⟨_, rfl, hf⟩
    · rintro ⟨buf, henc, hf⟩
      cases henc
      exact ⟨_, _, rfl, hf⟩

theorem reencodes_withProtocol (now : Int) {b : List UInt8} {k : FrameKind} (hk : k.At b)
    (hcode : k.code = protocolCodeV2) (hexact : b.length = k.layout.frameLen b)
    (hclass : k.layout.classLen b < 2 ^ 15) :
    Reencodes h₁ h₂ order pool ((k.command now b).withProtocol protocolCodeV2) b := by
  cases k with
  | requestV1 | responseV1 => exact absurd hcode (by decide)
  | requestV2 =>
    exact (reencodes_iff h₁ h₂ order pool rfl rfl).mpr
      (encode_requestCommandV2 pool hk hexact hclass)
  | responseV2 =>
    exact (reencodes_iff h₁ h₂ order pool rfl rfl).mpr
      (encode_responseCommandV2 pool now hk hexact hclass)

/-- **Encoding a decoded V2 frame.**  For a buffer that holds exactly one V2
frame whose class length fits in 15 bits, let `cmd` be the command it decodes
to, up to the `Protocol` field.  The registry writes the frame back if and
only if that field holds V2's code.  The decoder fills in V1's, so what it
returns is never written back. -/
theorem encode_decodeV2_iff (now : Int) (data data' : IoBuffer) (k : FrameKind)
    (decoded cmd : Command) (hk : k.At data.bytes) (hcode : k.code = protocolCodeV2)
    (hexact : data.len = k.layout.frameLen data.bytes)
    (hclass : k.layout.classLen data.bytes < 2 ^ 15)
    (hdec : BoltV2Codec.decode now data = (.ok (some decoded), data'))
    (hcmd : cmd.withProtocol decoded.getProtocol = decoded) :
    (Reencodes h₁ h₂ order pool cmd data.bytes ↔ cmd.getProtocol = protocolCodeV2)
      ∧ ¬ Reencodes h₁ h₂ order pool decoded data.bytes := by
  rw [BoltV2Codec.decode_at now hk hcode] at hdec
  simp only [Prod.mk.injEq, Except.ok.injEq, Option.some.injEq] at hdec
  obtain ⟨rfl, -⟩ := hdec
  rw [← IoBuffer.length_bytes] at hexact
  have hv2 : (k.command now data.bytes).IsV2 := FrameKind.isV2_command now _ hcode
  refine ⟨⟨?_, ?_⟩, ?_⟩
  · apply Reencodes.getProtocol_eq h₁ h₂ order pool
    rwa [← Command.isV2_withProtocol, hcmd]
  · intro hproto
    rw [Command.eq_withProtocol hcmd, hproto]
    exact reencodes_withProtocol h₁ h₂ order pool now hk hcode hexact hclass
  · intro hback
    have hproto := Reencodes.getProtocol_eq h₁ h₂ order pool hv2 hback
    rw [FrameKind.getProtocol_command now _ hcode] at hproto
    exact absurd hproto (by decide)

end Registry

/-- A V2 request with a one-byte class and one byte of content. -/
def smallRequestFrameV2 : List UInt8 :=
  [2, 1, 1, 0, 1, 1, 0, 0, 0, 7, 1, 0, 0, 0, 0, 100, 0, 1, 0, 0, 0, 0, 0, 1, 97, 5]

theorem encode_decodeV2_small : Reencodes idleHandler idleHandler GoMap.someOrder none
      (.boltV2Request { requestCommandV2 smallRequestFrameV2 with protocol := protocolCodeV2 })
      smallRequestFrameV2 :=
  (encode_decodeV2_iff idleHandler idleHandler GoMap.someOrder none 0
    (.newIoBufferBytes smallRequestFrameV2) _ .requestV2 _ _ (by decide) rfl rfl (by decide) rfl
    rfl).1.mpr rfl

/-- **The decoded command is refused**: it carries V1's code and a V2 type. -/
theorem encodeHeaders_decodedV2_refused :
    BoltV2Codec.decode 0 (.newIoBufferBytes smallRequestFrameV2)
        = (.ok (some (.boltV2Request (requestCommandV2 smallRequestFrameV2))),
          FrameKind.requestV2.advance (.newIoBufferBytes smallRequestFrameV2))
      ∧ (defaultProtocols idleHandler idleHandler).encodeHeaders GoMap.someOrder none
          (.cmd (.boltV2Request (requestCommandV2 smallRequestFrameV2)))
        = .ok (.error ⟨invalidCommandType⟩,
          .cmd (.boltV2Request (requestCommandV2 smallRequestFrameV2))) :=
  ⟨rfl, rfl⟩

end Mosn.Protocol.SofaRpc
