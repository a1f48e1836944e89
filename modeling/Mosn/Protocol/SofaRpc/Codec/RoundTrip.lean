/-
  Mosn.Protocol.SofaRpc.Codec.RoundTrip
  **WIRE → COMMAND → WIRE, AND BACK** (Bolt V1).

  The encoder writes a 22-byte (request) or 20-byte (response) fixed header,
  the class name if `ClassLen > 0`, and the header section; `requestBytes`
  and `responseBytes` are what it writes.

  Both directions stop at a sign bit: a class of 2¹⁵ bytes or more has a
  negative `ClassLen` and is not written, and a negative timeout comes back
  as a 32-bit unsigned number.
-/
import Mosn.Protocol.SofaRpc.Codec.Frame

namespace Mosn.Protocol.SofaRpc

open Mosn.Lib Mosn.Types Mosn.Network

/-! ## §1. What the encoders write. -/

/-- The fixed header of a request. -/
def requestFixed (cmd : BoltRequestCommand) : List UInt8 :=
  [cmd.protocol] ++ [cmd.cmdType] ++ putUint16 cmd.cmdCode.toUInt16 ++ [cmd.version]
    ++ putUint32 cmd.reqID ++ [cmd.codecPro] ++ putUint32 (intToUint32 cmd.timeout)
    ++ putUint16 cmd.classLen.toUInt16 ++ putUint16 (UInt16.ofNat cmd.headerMap.length)
    ++ putUint32 (intToUint32 cmd.contentLen)

/-- The fixed header of a response. -/
def responseFixed (cmd : BoltResponseCommand) : List UInt8 :=
  [cmd.protocol] ++ [cmd.cmdType] ++ putUint16 cmd.cmdCode.toUInt16 ++ [cmd.version]
    ++ putUint32 cmd.reqID ++ [cmd.codecPro] ++ putUint16 cmd.responseStatus.toUInt16
    ++ putUint16 cmd.classLen.toUInt16 ++ putUint16 (UInt16.ofNat cmd.headerMap.length)
    ++ putUint32 (intToUint32 cmd.contentLen)

/-- The class name as far as it is written. -/
def writtenClass (classLen : Int16) (className : List UInt8) : List UInt8 :=
  if 0 < classLen then className else []

/-- All of an encoded request but its content. -/
def requestBytes (cmd : BoltRequestCommand) : List UInt8 :=
  requestFixed cmd ++ writtenClass cmd.classLen cmd.className ++ cmd.headerMap

/-- All of an encoded response but its content. -/
def responseBytes (cmd : BoltResponseCommand) : List UInt8 :=
  responseFixed cmd ++ writtenClass cmd.classLen cmd.className ++ cmd.headerMap

theorem bytes_sections (buf : IoBuffer) (classLen : Int16) (className headerMap : List UInt8) :
    (if 0 < headerMap.length then
        (if 0 < classLen then buf.write className else buf).write headerMap
      else if 0 < classLen then buf.write className else buf).bytes
      = buf.bytes ++ writtenClass classLen className ++ headerMap := by
  have hclass : (if 0 < classLen then buf.write className else buf).bytes
      = buf.bytes ++ writtenClass classLen className := by
    unfold writtenClass
    split <;> simp
  cases headerMap with
  | nil => simpa using hclass
  | cons x xs => simp [hclass]

variable {pool : Option SlabPool} {buf : IoBuffer} {classLen : Int16} {className b F : List UInt8}
  {n : Nat} {l : Layout} {v : UInt16}

theorem BoltV1Codec.doEncodeRequestCommand_bytes {cmd : BoltRequestCommand}
    (h : doEncodeRequestCommand pool cmd = .ok buf) : buf.bytes = requestBytes cmd := by
  simp only [doEncodeRequestCommand, bind_eq_ok] at h
  obtain ⟨b, hb, hwritten⟩ := h
  cases hwritten
  refine (bytes_sections _ _ _ _).trans ?_
  simp only [IoBuffer.bytes_write, getBuffer_empty _ _ _ hb, List.nil_append]
  rfl

theorem BoltV1Codec.doEncodeRequestCommand_ok (pool : Option SlabPool)
    (cmd : BoltRequestCommand) (h : 0 ≤ 22 + cmd.classLen.toInt + cmd.headerMap.length) :
    ∃ buf, doEncodeRequestCommand pool cmd = .ok buf := by
  obtain ⟨b, hb⟩ := getBuffer_ok pool _ h
  simp only [doEncodeRequestCommand, hb]
  exact ⟨_, rfl⟩

theorem BoltV1Codec.doEncodeResponseCommand_bytes {cmd : BoltResponseCommand}
    (h : doEncodeResponseCommand pool cmd = .ok buf) : buf.bytes = responseBytes cmd := by
  simp only [doEncodeResponseCommand, bind_eq_ok] at h
  obtain ⟨b, hb, hwritten⟩ := h
  cases hwritten
  refine (bytes_sections _ _ _ _).trans ?_
  simp only [IoBuffer.bytes_write, getBuffer_empty _ _ _ hb, List.nil_append]
  rfl

theorem BoltV1Codec.doEncodeResponseCommand_ok (pool : Option SlabPool)
    (cmd : BoltResponseCommand) (h : 0 ≤ 20 + cmd.classLen.toInt + cmd.headerMap.length) :
    ∃ buf, doEncodeResponseCommand pool cmd = .ok buf := by
  obtain ⟨b, hb⟩ := getBuffer_ok pool _ h
  simp only [doEncodeResponseCommand, hb]
  exact ⟨_, rfl⟩

/-! ## §2. Decoding what was written. -/

theorem writtenClass_eq
    (h : classLen.toInt = className.length) : writtenClass classLen className = className := by
  unfold writtenClass
  split
  next => rfl
  next hle =>
      rw [Int16.lt_iff_toInt_lt, h] at hle
      exact (List.eq_nil_of_length_eq_zero (by simpa using hle)).symm

theorem classLen_toUInt16 (h : classLen.toInt = n) : classLen.toUInt16.toNat = n := by
  have hsign := toInt_toInt16 classLen.toUInt16
  rw [Int16.toInt16_toUInt16, h] at hsign
  have hlt := classLen.toUInt16.toNat_lt
  split at hsign <;> omega

theorem intToUint32_natCast (h : n < 2 ^ 32) : (intToUint32 n).toNat = n := by
  have hx := intToUint32_toNat n
  omega

theorem Layout.sections_of_lengths (l : Layout) (F cl hd ct : List UInt8)
    (hF : F.length = l.fixed) (hcl : l.classLen (F ++ cl ++ hd ++ ct) = cl.length)
    (hhd : l.headerLen (F ++ cl ++ hd ++ ct) = hd.length)
    (hct : l.contentLen (F ++ cl ++ hd ++ ct) = ct.length) : l.Complete (F ++ cl ++ hd ++ ct)
      ∧ l.sections (F ++ cl ++ hd ++ ct) = ⟨cl, hd, ct, (F ++ cl ++ hd ++ ct).length⟩ := by
  have hlen : l.frameLen (F ++ cl ++ hd ++ ct) = (F ++ cl ++ hd ++ ct).length := by
    rw [frameLen, hcl, hhd, hct]
    simp only [List.length_append]
    omega
  refine ⟨Nat.le_of_eq hlen, ?_⟩
  unfold sections
  rw [hlen, hcl, hhd, ← hF]
  congr 1
  · rw [List.append_assoc, List.append_assoc, slice_append_right, List.take_left]
  · rw [← List.length_append, List.append_assoc, slice_append_right, List.take_left]
  · rw [← List.length_append, ← List.length_append,
      show (F ++ cl ++ hd ++ ct).length = (F ++ cl ++ hd).length + ct.length from
        List.length_append,
      slice_append_right, List.take_length]

theorem Layout.sections_written (l : Layout) (F cl hd ct : List UInt8) (classLen : Int16)
    (hF : F.length = l.fixed) (hcl : classLen.toInt = cl.length) (hhd : hd.length < 2 ^ 16)
    (hct : ct.length < 2 ^ 32) (hclass : slice (F ++ cl ++ hd ++ ct) l.classAt (l.classAt + 2)
      = putUint16 classLen.toUInt16)
    (hheader : slice (F ++ cl ++ hd ++ ct) l.headerAt (l.headerAt + 2)
      = putUint16 (UInt16.ofNat hd.length))
    (hcontent : slice (F ++ cl ++ hd ++ ct) l.contentAt (l.contentAt + 4)
      = putUint32 (intToUint32 ct.length)) :
    l.Complete (F ++ cl ++ hd ++ ct)
      ∧ l.sections (F ++ cl ++ hd ++ ct) = ⟨cl, hd, ct, (F ++ cl ++ hd ++ ct).length⟩ := by
  apply l.sections_of_lengths F cl hd ct hF
  · rw [Layout.classLen, hclass, get_putUint16, classLen_toUInt16 hcl]
  · rw [headerLen, hheader, get_putUint16, UInt16.toNat_ofNat_of_lt' hhd]
  · rw [contentLen, hcontent, get_putUint32, intToUint32_natCast hct]

/-- The lengths of a request command are those of its sections. -/
structure BoltRequestCommand.Sized (cmd : BoltRequestCommand) (content : List UInt8) : Prop where
  class_eq : cmd.classLen.toInt = cmd.className.length
  header_lt : cmd.headerMap.length < 2 ^ 16
  content_eq : cmd.contentLen = content.length
  content_lt : content.length < 2 ^ 32

/-- The lengths of a response command are those of its sections. -/
structure BoltResponseCommand.Sized (cmd : BoltResponseCommand) (content : List UInt8) : Prop where
  class_eq : cmd.classLen.toInt = cmd.className.length
  header_lt : cmd.headerMap.length < 2 ^ 16
  content_eq : cmd.contentLen = content.length
  content_lt : content.length < 2 ^ 32

theorem requestFixed_fields (cmd : BoltRequestCommand) (rest : List UInt8) :
    let b := requestFixed cmd ++ rest
    b.getD 0 0 = cmd.protocol ∧ b.getD 1 0 = cmd.cmdType
      ∧ slice b 2 4 = putUint16 cmd.cmdCode.toUInt16 ∧ b.getD 4 0 = cmd.version
      ∧ slice b 5 9 = putUint32 cmd.reqID ∧ b.getD 9 0 = cmd.codecPro
      ∧ slice b 10 14 = putUint32 (intToUint32 cmd.timeout)
      ∧ slice b 14 16 = putUint16 cmd.classLen.toUInt16
      ∧ slice b 16 18 = putUint16 (UInt16.ofNat cmd.headerMap.length)
      ∧ slice b 18 22 = putUint32 (intToUint32 cmd.contentLen) := by
  simp [requestFixed, List.getElem?_append]

theorem responseFixed_fields (cmd : BoltResponseCommand) (rest : List UInt8) :
    let b := responseFixed cmd ++ rest
    b.getD 0 0 = cmd.protocol ∧ b.getD 1 0 = cmd.cmdType
      ∧ slice b 2 4 = putUint16 cmd.cmdCode.toUInt16 ∧ b.getD 4 0 = cmd.version
      ∧ slice b 5 9 = putUint32 cmd.reqID ∧ b.getD 9 0 = cmd.codecPro
      ∧ slice b 10 12 = putUint16 cmd.responseStatus.toUInt16
      ∧ slice b 12 14 = putUint16 cmd.classLen.toUInt16
      ∧ slice b 14 16 = putUint16 (UInt16.ofNat cmd.headerMap.length)
      ∧ slice b 16 20 = putUint32 (intToUint32 cmd.contentLen) := by
  simp [responseFixed, List.getElem?_append]

/-- **Decoding a written request** gives the command back, the timeout as an
unsigned number. -/
theorem requestCommandV1_requestBytes (cmd : BoltRequestCommand) (content : List UInt8)
    (hproto : cmd.protocol = protocolCodeV1)
    (htype : cmd.cmdType = request ∨ cmd.cmdType = requestOneway) (hsize : cmd.Sized content) :
    FrameKind.requestV1.At (requestBytes cmd ++ content)
      ∧ requestCommandV1 (requestBytes cmd ++ content)
        = { cmd with
            timeout := (intToUint32 cmd.timeout).toNat
            headerLen := (UInt16.ofNat cmd.headerMap.length).toInt16
            content := content
            requestHeader := none } := by
  have hb : requestBytes cmd ++ content
      = requestFixed cmd ++ cmd.className ++ cmd.headerMap ++ content := by
    rw [requestBytes, writtenClass_eq hsize.class_eq]
  obtain ⟨h0, h1, h2, h4, h5, h9, h10, h14, h16, h18⟩ :=
    requestFixed_fields cmd (cmd.className ++ (cmd.headerMap ++ content))
  simp only [← List.append_assoc] at h0 h1 h2 h4 h5 h9 h10 h14 h16 h18
  have hlen : (requestFixed cmd).length = 22 := by simp [requestFixed]
  obtain ⟨hc, hsec⟩ := FrameKind.requestV1.layout.sections_written (requestFixed cmd)
    cmd.className cmd.headerMap content cmd.classLen hlen hsize.class_eq hsize.header_lt
    hsize.content_lt h14 h16 (hsize.content_eq ▸ h18)
  rw [hb]
  refine ⟨⟨?_, hc⟩, ?_⟩
  · rw [FrameKind.ahead_v1 (h0.trans hproto), h1]
    exact if_pos htype
  · simp only [requestCommandV1, hsec, h1, h2, h4, h5, h9, h10, h14, h16, h18, uint16_putUint16,
      uint32_putUint32, Int16.toInt16_toUInt16, hproto, hsize.content_eq,
      intToUint32_natCast hsize.content_lt]

/-- **Decoding a written response** gives the command back. -/
theorem responseCommandV1_responseBytes (now : Int) (cmd : BoltResponseCommand)
    (content : List UInt8) (hproto : cmd.protocol = protocolCodeV1)
    (htype : cmd.cmdType = response) (hsize : cmd.Sized content) :
    FrameKind.responseV1.At (responseBytes cmd ++ content)
      ∧ responseCommandV1 now (responseBytes cmd ++ content)
        = { cmd with
            headerLen := (UInt16.ofNat cmd.headerMap.length).toInt16
            content := content
            responseTimeMillis := now
            responseHeader := none } := by
  have hb : responseBytes cmd ++ content
      = responseFixed cmd ++ cmd.className ++ cmd.headerMap ++ content := by
    rw [responseBytes, writtenClass_eq hsize.class_eq]
  obtain ⟨h0, h1, h2, h4, h5, h9, h10, h12, h14, h16⟩ :=
    responseFixed_fields cmd (cmd.className ++ (cmd.headerMap ++ content))
  simp only [← List.append_assoc] at h0 h1 h2 h4 h5 h9 h10 h12 h14 h16
  have hlen : (responseFixed cmd).length = 20 := by simp [responseFixed]
  obtain ⟨hc, hsec⟩ := FrameKind.responseV1.layout.sections_written (responseFixed cmd)
    cmd.className cmd.headerMap content cmd.classLen hlen hsize.class_eq hsize.header_lt
    hsize.content_lt h12 h14 (hsize.content_eq ▸ h16)
  rw [hb]
  refine ⟨⟨?_, hc⟩, ?_⟩
  · rw [FrameKind.ahead_v1 (h0.trans hproto), h1, htype]
    rfl
  · simp only [responseCommandV1, hsec, h1, h2, h4, h5, h9, h10, h12, h14, h16, uint16_putUint16,
      uint32_putUint32, Int16.toInt16_toUInt16, hproto, hsize.content_eq,
      intToUint32_natCast hsize.content_lt]

/-! ## §3. Writing what was decoded. -/

theorem Layout.length_sections (h : l.Complete b) : (l.sections b).className.length = l.classLen b
      ∧ (l.sections b).header.length = l.headerLen b
      ∧ (l.sections b).content.length = l.contentLen b := by
  have hlen : l.fixed + l.classLen b + l.headerLen b + l.contentLen b ≤ b.length := h
  refine ⟨?_, ?_, ?_⟩
  · rw [sections, length_slice _ _ _ (by omega)]
    omega
  · rw [sections, length_slice _ _ _ (by omega)]
    omega
  · rw [sections, length_slice _ _ _ h, frameLen]
    omega

theorem Layout.sections_join (l : Layout) (b : List UInt8) :
    (l.sections b).className ++ (l.sections b).header ++ (l.sections b).content
      = slice b l.fixed (l.frameLen b) := by
  unfold sections frameLen
  rw [slice_append_slice _ _ _ _ (by omega) (by omega),
    slice_append_slice _ _ _ _ (by omega) (by omega)]

/-- **Writing a decoded request**: the fixed header comes back as it was. -/
theorem requestFixed_requestCommandV1 (h : FrameKind.requestV1.At b) :
    requestFixed (requestCommandV1 b) = slice b 0 22 := by
  have hlen : 22 ≤ b.length := h.2.fixed_le
  have hcode : protocolCodeV1 = b.getD 0 0 := h.code_eq.symm
  have hhead : UInt16.ofNat (FrameKind.requestV1.layout.sections b).header.length
      = uint16 (slice b 16 18) := by
    rw [(Layout.length_sections h.2).2.1]
    rfl
  simp only [requestFixed, requestCommandV1, hhead, hcode, UInt16.toUInt16_toInt16,
    intToUint32_ofNat_toNat]
  simp (disch := omega) only [← slice_one b 0, putUint16_uint16, putUint32_uint32,
    slice_append_slice]

/-- **Writing a decoded response**: the fixed header comes back as it was. -/
theorem responseFixed_responseCommandV1 (now : Int) (h : FrameKind.responseV1.At b) :
    responseFixed (responseCommandV1 now b) = slice b 0 20 := by
  have hlen : 20 ≤ b.length := h.2.fixed_le
  have hcode : protocolCodeV1 = b.getD 0 0 := h.code_eq.symm
  have hhead : UInt16.ofNat (FrameKind.responseV1.layout.sections b).header.length
      = uint16 (slice b 14 16) := by
    rw [(Layout.length_sections h.2).2.1]
    rfl
  simp only [responseFixed, responseCommandV1, hhead, hcode, UInt16.toUInt16_toInt16,
    intToUint32_ofNat_toNat]
  simp (disch := omega) only [← slice_one b 0, putUint16_uint16, putUint32_uint32,
    slice_append_slice]

theorem writtenClass_uint16 (h : className.length = v.toNat) (hlt : v.toNat < 2 ^ 15) :
    writtenClass v.toInt16 className = className := by
  apply writtenClass_eq
  rw [toInt_toInt16, if_pos hlt, h]

theorem writtenClass_uint16_neg (hge : 2 ^ 15 ≤ v.toNat) :
    writtenClass v.toInt16 className = [] := by
  have hlt := v.toNat_lt
  unfold writtenClass
  rw [if_neg]
  rw [Int16.lt_iff_toInt_lt, toInt_toInt16, if_neg (by omega)]
  simp
  omega

theorem Layout.written_eq_iff (hc : l.Complete b)
    (hexact : b.length = l.frameLen b) (hF : F = slice b 0 l.fixed) (hv : v.toNat = l.classLen b) :
    F ++ writtenClass v.toInt16 (l.sections b).className ++ (l.sections b).header
        ++ (l.sections b).content = b
      ↔ l.classLen b < 2 ^ 15 := by
  obtain ⟨hcl, hhd, hct⟩ := length_sections hc
  constructor
  · intro h
    by_contra hge
    rw [writtenClass_uint16_neg (by omega), List.append_nil] at h
    -- without the class the result is too short
    have hlen := congrArg List.length h
    have hfix := hc.fixed_le
    rw [List.length_append, List.length_append, hF, length_slice _ _ _ hfix, hhd, hct, hexact,
      frameLen] at hlen
    omega
  · intro hlt
    rw [writtenClass_uint16 (hcl.trans hv.symm) (hv ▸ hlt), List.append_assoc, List.append_assoc,
      ← List.append_assoc _ _ (l.sections b).content, sections_join, hF,
      slice_append_slice _ _ _ _ (Nat.zero_le _) (by unfold frameLen; omega), ← hexact,
      slice_zero_length]

/-- So an encoder that writes this wherever its buffer has a size gives the
frame back exactly when the class length fits in 15 bits. -/
theorem Layout.encode_iff
    {enc : Except Panic IoBuffer} (hc : l.Complete b) (hexact : b.length = l.frameLen b)
    (hF : F = slice b 0 l.fixed) (hv : v.toNat = l.classLen b) (hbytes : ∀ buf, enc = .ok buf →
      buf.bytes = F ++ writtenClass v.toInt16 (l.sections b).className ++ (l.sections b).header)
    (hok : 0 ≤ v.toInt16.toInt → ∃ buf, enc = .ok buf) :
    (∃ buf, enc = .ok buf ∧ buf.bytes ++ (l.sections b).content = b)
      ↔ l.classLen b < 2 ^ 15 := by
  have hwritten := Layout.written_eq_iff hc hexact hF hv
  rw [← hwritten]
  constructor
  · rintro ⟨buf, hbuf, h⟩
    rw [hbytes buf hbuf] at h
    exact h
  · intro h
    have hlt := hv.trans_lt (hwritten.mp h)
    obtain ⟨buf, hbuf⟩ := hok (by
      rw [toInt_toInt16, if_pos hlt]
      omega)
    refine ⟨buf, hbuf, ?_⟩
    rw [hbytes buf hbuf]
    exact h

namespace BoltV1Codec

variable (order : HeaderOrder) (pool : Option SlabPool)

theorem encodeHeaders_cmd_iff (c : Command) (enc : Except Panic IoBuffer)
    (h : encodeHeadersCmd pool (some c) = enc.map .ok) (buf : IoBuffer) :
    encodeHeaders order pool (.cmd c) = .ok (.ok buf, .cmd c) ↔ enc = .ok buf := by
  simp only [encodeHeaders, h]
  cases enc with
  | error e => exact ⟨(nomatch ·), (nomatch ·)⟩
  | ok b => exact ⟨fun h => by cases h; rfl, fun h => by cases h; rfl⟩

theorem encode_requestCommandV1_iff {b : List UInt8} (hk : FrameKind.requestV1.At b)
    (hexact : b.length = FrameKind.requestV1.layout.frameLen b) :
    (∃ buf, doEncodeRequestCommand pool (requestCommandV1 b) = .ok buf
        ∧ buf.bytes ++ (requestCommandV1 b).content = b)
      ↔ FrameKind.requestV1.layout.classLen b < 2 ^ 15 :=
  Layout.encode_iff hk.2 hexact (requestFixed_requestCommandV1 hk) (uint16_slice b 14)
    (fun _ hbuf => doEncodeRequestCommand_bytes hbuf)
    (fun hclass => doEncodeRequestCommand_ok pool (requestCommandV1 b) (by
      have hnonneg : 0 ≤ (requestCommandV1 b).classLen.toInt := hclass
      omega))

theorem encode_responseCommandV1_iff {b : List UInt8} (now : Int) (hk : FrameKind.responseV1.At b)
    (hexact : b.length = FrameKind.responseV1.layout.frameLen b) :
    (∃ buf, doEncodeResponseCommand pool (responseCommandV1 now b) = .ok buf
        ∧ buf.bytes ++ (responseCommandV1 now b).content = b)
      ↔ FrameKind.responseV1.layout.classLen b < 2 ^ 15 :=
  Layout.encode_iff hk.2 hexact (responseFixed_responseCommandV1 now hk) (uint16_slice b 12)
    (fun _ hbuf => doEncodeResponseCommand_bytes hbuf)
    (fun hclass => doEncodeResponseCommand_ok pool (responseCommandV1 now b) (by
      have hnonneg : 0 ≤ (responseCommandV1 now b).classLen.toInt := hclass
      omega))

/-- **Encoding a decoded frame.**  For a buffer that holds exactly one V1
frame, encoding the command it decodes to gives the frame back if and only
if the class length fits in 15 bits. -/
theorem encode_decode_iff (now : Int) (data data' : IoBuffer) (k : FrameKind) (cmd : Command)
    (hk : k.At data.bytes) (hcode : k.code = protocolCodeV1)
    (hexact : data.len = k.layout.frameLen data.bytes)
    (hdec : decode now data = (.ok (some cmd), data')) :
    (∃ buf, encodeHeaders order pool (.cmd cmd) = .ok (.ok buf, .cmd cmd)
        ∧ buf.bytes ++ cmd.content = data.bytes)
      ↔ k.layout.classLen data.bytes < 2 ^ 15 := by
  rw [decode_at now hk hcode] at hdec
  simp only [Prod.mk.injEq, Except.ok.injEq, Option.some.injEq] at hdec
  obtain ⟨rfl, -⟩ := hdec
  rw [← IoBuffer.length_bytes] at hexact
  cases k with
  | requestV1 =>
    have hiff := encodeHeaders_cmd_iff order pool (.boltRequest (requestCommandV1 data.bytes))
      (doEncodeRequestCommand pool _) rfl
    simp only [FrameKind.command, hiff]
    exact encode_requestCommandV1_iff pool hk hexact
  | responseV1 =>
    have hiff := encodeHeaders_cmd_iff order pool (.boltResponse (responseCommandV1 now data.bytes))
      (doEncodeResponseCommand pool _) rfl
    simp only [FrameKind.command, hiff]
    exact encode_responseCommandV1_iff pool now hk hexact
  | requestV2 | responseV2 => exact absurd hcode (by decide)

/-- A request with a one-byte class and one byte of content. -/
def smallRequestFrame : List UInt8 :=
  [1, 1, 0, 1, 1, 0, 0, 0, 7, 1, 0, 0, 0, 100, 0, 1, 0, 0, 0, 0, 0, 1, 97, 5]

theorem encode_decode_small : ∃ buf,
    encodeHeaders GoMap.someOrder none (.cmd (.boltRequest (requestCommandV1 smallRequestFrame)))
        = .ok (.ok buf, .cmd (.boltRequest (requestCommandV1 smallRequestFrame)))
      ∧ buf.bytes ++ [5] = smallRequestFrame :=
  (encode_decode_iff GoMap.someOrder none 0 (.newIoBufferBytes smallRequestFrame) _ .requestV1 _
    (by decide) rfl rfl rfl).mpr (by decide)

/-- The fixed header of a request that announces a class of 2¹⁵ bytes. -/
def longClassHeader : List UInt8 :=
  [1, 1, 0, 1, 1, 0, 0, 0, 7, 1, 0, 0, 0, 100, 128, 0, 0, 0, 0, 0, 0, 0]

/-- A request with a class of 2¹⁵ bytes and nothing else. -/
def longClassFrame : List UInt8 := longClassHeader ++ List.replicate 32768 97

/-- **The encoder panics** on the command this frame decodes to: the buffer
size is 22 − 2¹⁵. -/
theorem encode_long_class_panics : FrameKind.requestV1.At longClassFrame
      ∧ longClassFrame.length = FrameKind.requestV1.layout.frameLen longClassFrame
      ∧ decode 0 (.newIoBufferBytes longClassFrame)
        = (.ok (some (.boltRequest (requestCommandV1 longClassFrame))),
          FrameKind.requestV1.advance (.newIoBufferBytes longClassFrame))
      ∧ encodeHeaders GoMap.someOrder none
          (.cmd (.boltRequest (requestCommandV1 longClassFrame))) = .error .makeSlice := by
  have hfield : ∀ i j, j ≤ 22 → slice longClassFrame i j = slice longClassHeader i j :=
    fun i j hj => slice_append_left _ _ i j hj
  have hcl : FrameKind.requestV1.layout.classLen longClassFrame = 32768 := by
    show BigEndian.get (slice longClassFrame 14 16) = _
    rw [hfield _ _ (by decide)]
    decide
  have hhd : FrameKind.requestV1.layout.headerLen longClassFrame = 0 := by
    show BigEndian.get (slice longClassFrame 16 18) = _
    rw [hfield _ _ (by decide)]
    decide
  have hct : FrameKind.requestV1.layout.contentLen longClassFrame = 0 := by
    show BigEndian.get (slice longClassFrame 18 22) = _
    rw [hfield _ _ (by decide)]
    decide
  have hlen : longClassFrame.length = FrameKind.requestV1.layout.frameLen longClassFrame := by
    rw [Layout.frameLen, hcl, hhd, hct, longClassFrame, List.length_append, List.length_replicate]
    rfl
  have hat : FrameKind.requestV1.At longClassFrame := ⟨rfl, Nat.le_of_eq hlen.symm⟩
  refine ⟨hat, hlen, decode_frame 0 hat rfl, ?_⟩
  have hclass : (requestCommandV1 longClassFrame).classLen.toInt = -32768 := by
    show (uint16 (slice longClassFrame 14 16)).toInt16.toInt = _
    rw [hfield _ _ (by decide)]
    decide
  have hheader : (requestCommandV1 longClassFrame).headerMap.length = 0 :=
    (Layout.length_sections hat.2).2.1.trans hhd
  simp only [encodeHeaders, encodeHeadersCmd, doEncodeRequestCommand, hclass, hheader]
  rfl

/-! ## §4. Requests that were encoded here. -/

/-- **Decoding an encoded request.**  Every field of a request whose lengths
are right survives, if and only if its timeout is not negative. -/
theorem decode_encode_iff (now : Int) (cmd : BoltRequestCommand)
    (hproto : cmd.protocol = protocolCodeV1)
    (htype : cmd.cmdType = request ∨ cmd.cmdType = requestOneway)
    (hclass : cmd.classLen.toInt = cmd.className.length)
    (hheader : cmd.headerLen.toInt = cmd.headerMap.length)
    (hcontent : cmd.contentLen = cmd.content.length) (hlt : cmd.content.length < 2 ^ 32)
    (htimeout : -2 ^ 31 ≤ cmd.timeout ∧ cmd.timeout < 2 ^ 31) :
    (∃ buf data', doEncodeRequestCommand pool cmd = .ok buf
        ∧ decode now (.newIoBufferBytes (buf.bytes ++ cmd.content))
          = (.ok (some (.boltRequest { cmd with requestHeader := none })), data'))
      ↔ 0 ≤ cmd.timeout := by
  have hhd : cmd.headerMap.length < 2 ^ 15 := by
    have := cmd.headerLen.toInt_lt
    omega
  have hsized : cmd.Sized cmd.content := ⟨hclass, by omega, hcontent, hlt⟩
  obtain ⟨hat, hcmd⟩ := requestCommandV1_requestBytes cmd cmd.content hproto htype hsized
  have hheaderLen : (UInt16.ofNat cmd.headerMap.length).toInt16 = cmd.headerLen := by
    apply Int16.toInt_inj.mp
    have hnat : (UInt16.ofNat cmd.headerMap.length).toNat = cmd.headerMap.length :=
      UInt16.toNat_ofNat_of_lt' (by show _ < 2 ^ 16; omega)
    rw [toInt_toInt16, hnat, if_pos hhd, hheader]
  obtain ⟨buf, hbuf⟩ := doEncodeRequestCommand_ok pool cmd (by rw [hclass]; omega)
  have hbytes := doEncodeRequestCommand_bytes hbuf
  have hdec := decode_frame now hat rfl
  -- the timeout is written modulo 2³² and read as an unsigned number
  have hwrap := intToUint32_toNat cmd.timeout
  rw [show FrameKind.requestV1.command now (requestBytes cmd ++ cmd.content)
    = .boltRequest (requestCommandV1 (requestBytes cmd ++ cmd.content)) from rfl, hcmd,
    hheaderLen] at hdec
  constructor
  · rintro ⟨buf', data', hbuf', hdec'⟩
    rw [doEncodeRequestCommand_bytes hbuf', hdec] at hdec'
    simp only [Prod.mk.injEq, Except.ok.injEq, Option.some.injEq, Command.boltRequest.injEq,
      BoltRequestCommand.mk.injEq] at hdec'
    omega
  · intro hnonneg
    have hsame : ((intToUint32 cmd.timeout).toNat : Int) = cmd.timeout := by omega
    rw [hsame] at hdec
    exact ⟨buf, _, hbuf, hbytes ▸ hdec⟩

theorem decode_encode_with_timeout : ∃ buf data',
    doEncodeRequestCommand none { newBoltHeartbeat 7 with timeout := 100 } = .ok buf
      ∧ decode 0 (.newIoBufferBytes (buf.bytes ++ []))
        = (.ok (some (.boltRequest { newBoltHeartbeat 7 with timeout := 100 })), data') :=
  (decode_encode_iff none 0 { newBoltHeartbeat 7 with timeout := 100 } rfl (Or.inl rfl)
    rfl rfl rfl (by decide) (by decide)).mpr (by decide)

/-- **The repository's own heartbeat** does not survive: its timeout of −1
is decoded as 2³² − 1. -/
theorem heartbeat_timeout_wraps : (doEncodeRequestCommand none (newBoltHeartbeat 1)).map
        (fun buf => (decode 0 (.newIoBufferBytes buf.bytes)).1)
      = .ok (.ok (some (.boltRequest { newBoltHeartbeat 1 with timeout := 4294967295 }))) := by
  rfl

end BoltV1Codec

end Mosn.Protocol.SofaRpc
