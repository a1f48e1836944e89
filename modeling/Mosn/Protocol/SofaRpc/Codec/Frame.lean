/-
  Mosn.Protocol.SofaRpc.Codec.Frame
  **THE BOLT WIRE FORMAT, AND WHAT THE DECODERS MAKE OF IT.**

  The format is stated from the diagrams in `codec/boltprotocol.go`: the
  first byte is the protocol code, the type byte follows it (V1) or the
  version byte (V2), and each of the four frame kinds keeps three length
  fields at fixed offsets of its fixed header.  `Layout.frameLen` is the
  length a frame announces.

  The two codecs are then characterised against it: on a complete frame they
  return the command whose fields are the announced slices, on an incomplete
  one they wait, on an unknown type they fail.  `FrameKind.advance` is what
  they leave of the buffer; it lies one frame further for three of the four
  kinds.
-/
import Mosn.Protocol.SofaRpc.Codec.BoltV2

namespace Mosn.Protocol.SofaRpc

open Mosn.Lib Mosn.Types Mosn.Network

/-! ## §1. Layouts. -/

/-- Length of the fixed header, and where the length fields are in it. -/
structure Layout where
  fixed : Nat
  classAt : Nat
  headerAt : Nat
  contentAt : Nat
  class_le : classAt + 2 ≤ fixed
  header_le : headerAt + 2 ≤ fixed
  content_le : contentAt + 4 ≤ fixed

namespace Layout

/-- `classLen` field. -/
def classLen (l : Layout) (b : List UInt8) : Nat :=
  BigEndian.get (slice b l.classAt (l.classAt + 2))

/-- `headerLen` field. -/
def headerLen (l : Layout) (b : List UInt8) : Nat :=
  BigEndian.get (slice b l.headerAt (l.headerAt + 2))

/-- `contentLen` field. -/
def contentLen (l : Layout) (b : List UInt8) : Nat :=
  BigEndian.get (slice b l.contentAt (l.contentAt + 4))

/-- The length the frame at the head of `b` announces. -/
def frameLen (l : Layout) (b : List UInt8) : Nat :=
  l.fixed + l.classLen b + l.headerLen b + l.contentLen b

/-- The announced bytes are all there. -/
def Complete (l : Layout) (b : List UInt8) : Prop := l.frameLen b ≤ b.length

instance (l : Layout) (b : List UInt8) : Decidable (l.Complete b) :=
  inferInstanceAs (Decidable (_ ≤ _))

/-- The announced sections. -/
def sections (l : Layout) (b : List UInt8) : Sections where
  className := slice b l.fixed (l.fixed + l.classLen b)
  header := slice b (l.fixed + l.classLen b) (l.fixed + l.classLen b + l.headerLen b)
  content := slice b (l.fixed + l.classLen b + l.headerLen b) (l.frameLen b)
  read := l.frameLen b

theorem Complete.fixed_le {l : Layout} {b : List UInt8} (h : l.Complete b) :
    l.fixed ≤ b.length := by
  unfold Complete frameLen at h
  omega

/-! Behind a complete frame more bytes change nothing. -/

section Append

variable {l : Layout} {b : List UInt8} (t : List UInt8)

theorem lengths_append (h : l.fixed ≤ b.length) : l.classLen (b ++ t) = l.classLen b
      ∧ l.headerLen (b ++ t) = l.headerLen b ∧ l.contentLen (b ++ t) = l.contentLen b := by
  unfold classLen headerLen contentLen
  rw [slice_append_left b t _ _ (Nat.le_trans l.class_le h),
    slice_append_left b t _ _ (Nat.le_trans l.header_le h),
    slice_append_left b t _ _ (Nat.le_trans l.content_le h)]
  exact ⟨rfl, rfl, rfl⟩

theorem frameLen_append (h : l.fixed ≤ b.length) : l.frameLen (b ++ t) = l.frameLen b := by
  obtain ⟨hclass, hheader, hcontent⟩ := lengths_append t h
  unfold frameLen
  rw [hclass, hheader, hcontent]

theorem Complete.append (h : l.Complete b) : l.Complete (b ++ t) := by
  unfold Complete
  rw [frameLen_append t h.fixed_le, List.length_append]
  exact Nat.le_trans h (Nat.le_add_right _ _)

theorem sections_append (h : l.Complete b) : l.sections (b ++ t) = l.sections b := by
  have hfix := h.fixed_le
  have hlen : l.fixed + l.classLen b + l.headerLen b + l.contentLen b ≤ b.length := h
  obtain ⟨hclass, hheader, -⟩ := lengths_append t hfix
  unfold sections
  rw [frameLen_append t hfix, hclass, hheader,
    slice_append_left b t _ _ (by omega), slice_append_left b t _ _ (by omega),
    slice_append_left b t _ (l.frameLen b) h]

end Append

end Layout

/-! ## §2. The four kinds of frame. -/

inductive FrameKind where
  | requestV1
  | responseV1
  | requestV2
  | responseV2
  deriving Repr, DecidableEq

namespace FrameKind

def layout : FrameKind → Layout
  | requestV1 => ⟨22, 14, 16, 18, by decide, by decide, by decide⟩
  | responseV1 => ⟨20, 12, 14, 16, by decide, by decide, by decide⟩
  | requestV2 => ⟨24, 16, 18, 20, by decide, by decide, by decide⟩
  | responseV2 => ⟨22, 14, 16, 18, by decide, by decide, by decide⟩

/-- The first byte of such a frame. -/
def code : FrameKind → UInt8
  | requestV1 | responseV1 => protocolCodeV1
  | requestV2 | responseV2 => protocolCodeV2

/-- Where the type byte is. -/
def typeAt (code : UInt8) : Nat := if code = protocolCodeV1 then 1 else 2

/-- The kind a protocol code and a type byte stand for. -/
def ofBytes (code type : UInt8) : Option FrameKind :=
  if code = protocolCodeV1 then
    if type = request ∨ type = requestOneway then some requestV1
    else if type = response then some responseV1
    else none
  else if code = protocolCodeV2 then
    if type = request ∨ type = requestOneway then some requestV2
    else if type = response then some responseV2
    else none
  else none

/-- The kind of the frame at the head of `b`. -/
def ahead (b : List UInt8) : Option FrameKind :=
  ofBytes (b.getD 0 0) (b.getD (typeAt (b.getD 0 0)) 0)

/-- A complete frame of kind `k` stands at the head of `b`. -/
def At (k : FrameKind) (b : List UInt8) : Prop := ahead b = some k ∧ k.layout.Complete b

instance (k : FrameKind) (b : List UInt8) : Decidable (k.At b) :=
  inferInstanceAs (Decidable (_ ∧ _))

theorem three_le_fixed (k : FrameKind) : 3 ≤ k.layout.fixed := by
  cases k <;> decide

variable {k : FrameKind} {b : List UInt8}

theorem At.three_le (h : k.At b) : 3 ≤ b.length :=
  Nat.le_trans k.three_le_fixed h.2.fixed_le

theorem typeAt_lt (code : UInt8) : typeAt code < 3 := by
  unfold typeAt
  split <;> omega

theorem ahead_append (b t : List UInt8) (h : 3 ≤ b.length) : ahead (b ++ t) = ahead b := by
  have hcode : (b ++ t).getD 0 0 = b.getD 0 0 := List.getD_append _ _ _ _ (by omega)
  have htype := List.getD_append b t 0 (typeAt (b.getD 0 0))
    (by have := typeAt_lt (b.getD 0 0); omega)
  unfold ahead
  rw [hcode, htype]

theorem ahead_v1 (h : b.getD 0 0 = protocolCodeV1) :
    ahead b = if b.getD 1 0 = request ∨ b.getD 1 0 = requestOneway then some requestV1
      else if b.getD 1 0 = response then some responseV1 else none := by
  unfold ahead
  rw [h]
  rfl

theorem ahead_v2 (h : b.getD 0 0 = protocolCodeV2) :
    ahead b = if b.getD 2 0 = request ∨ b.getD 2 0 = requestOneway then some requestV2
      else if b.getD 2 0 = response then some responseV2 else none := by
  unfold ahead
  rw [h]
  rfl

theorem At.code_eq (h : k.At b) : b.getD 0 0 = k.code := by
  have hk := h.1
  unfold ahead ofBytes at hk
  split at hk
  next hcode =>
      rw [hcode]
      split at hk
      · cases hk; rfl
      · split at hk <;> cases hk
        rfl
  next =>
      split at hk
      next hcode =>
          rw [hcode]
          split at hk
          · cases hk; rfl
          · split at hk <;> cases hk
            rfl
      next => cases hk

end FrameKind

/-! ## §3. The command a frame stands for. -/

/-- The command of a V1 request frame at the head of `b`. -/
def requestCommandV1 (b : List UInt8) : BoltRequestCommand where
  protocol := protocolCodeV1
  cmdType := b.getD 1 0
  cmdCode := (uint16 (slice b 2 4)).toInt16
  version := b.getD 4 0
  reqID := uint32 (slice b 5 9)
  codecPro := b.getD 9 0
  timeout := (uint32 (slice b 10 14)).toNat
  classLen := (uint16 (slice b 14 16)).toInt16
  headerLen := (uint16 (slice b 16 18)).toInt16
  contentLen := (uint32 (slice b 18 22)).toNat
  className := (FrameKind.requestV1.layout.sections b).className
  headerMap := (FrameKind.requestV1.layout.sections b).header
  content := (FrameKind.requestV1.layout.sections b).content
  requestHeader := none

/-- The command of a V1 response frame at the head of `b`. -/
def responseCommandV1 (now : Int) (b : List UInt8) : BoltResponseCommand where
  protocol := protocolCodeV1
  cmdType := b.getD 1 0
  cmdCode := (uint16 (slice b 2 4)).toInt16
  version := b.getD 4 0
  reqID := uint32 (slice b 5 9)
  codecPro := b.getD 9 0
  responseStatus := (uint16 (slice b 10 12)).toInt16
  classLen := (uint16 (slice b 12 14)).toInt16
  headerLen := (uint16 (slice b 14 16)).toInt16
  contentLen := (uint32 (slice b 16 20)).toNat
  className := (FrameKind.responseV1.layout.sections b).className
  headerMap := (FrameKind.responseV1.layout.sections b).header
  content := (FrameKind.responseV1.layout.sections b).content
  responseTimeMillis := now
  responseHeader := none

/-- The command of a V2 request frame at the head of `b`. -/
def requestCommandV2 (b : List UInt8) : BoltV2RequestCommand where
  protocol := protocolCodeV1
  cmdType := b.getD 2 0
  cmdCode := (uint16 (slice b 3 5)).toInt16
  version := b.getD 5 0
  reqID := uint32 (slice b 6 10)
  codecPro := b.getD 10 0
  timeout := (uint32 (slice b 12 16)).toNat
  classLen := (uint16 (slice b 16 18)).toInt16
  headerLen := (uint16 (slice b 18 20)).toInt16
  contentLen := (uint32 (slice b 20 24)).toNat
  className := (FrameKind.requestV2.layout.sections b).className
  headerMap := (FrameKind.requestV2.layout.sections b).header
  content := (FrameKind.requestV2.layout.sections b).content
  requestHeader := none
  version1 := b.getD 1 0
  switchCode := b.getD 11 0

/-- The command of a V2 response frame at the head of `b`. -/
def responseCommandV2 (now : Int) (b : List UInt8) : BoltV2ResponseCommand where
  protocol := protocolCodeV1
  cmdType := b.getD 2 0
  cmdCode := (uint16 (slice b 3 5)).toInt16
  version := b.getD 5 0
  reqID := uint32 (slice b 6 10)
  codecPro := b.getD 10 0
  responseStatus := (uint16 (slice b 12 14)).toInt16
  classLen := (uint16 (slice b 14 16)).toInt16
  headerLen := (uint16 (slice b 16 18)).toInt16
  contentLen := (uint32 (slice b 18 22)).toNat
  className := (FrameKind.responseV2.layout.sections b).className
  headerMap := (FrameKind.responseV2.layout.sections b).header
  content := (FrameKind.responseV2.layout.sections b).content
  responseTimeMillis := now
  responseHeader := none
  version1 := b.getD 1 0
  switchCode := b.getD 11 0

namespace FrameKind

/-- The command of the frame at the head of `b`, decoded at time `now`. -/
def command (now : Int) (b : List UInt8) : FrameKind → Command
  | requestV1 => .boltRequest (requestCommandV1 b)
  | responseV1 => .boltResponse (responseCommandV1 now b)
  | requestV2 => .boltV2Request (requestCommandV2 b)
  | responseV2 => .boltV2Response (responseCommandV2 now b)

@[simp] theorem stamp_command (now now' : Int) (b : List UInt8) (k : FrameKind) :
    (k.command now b).stamp now' = k.command now' b := by
  cases k <;> rfl

/-- **A complete frame is not changed by what comes behind it.** -/
theorem command_append (now : Int) (b t : List UInt8) (k : FrameKind)
    (h : k.layout.Complete b) : k.command now (b ++ t) = k.command now b := by
  have hsec := Layout.sections_append t h
  have hfix := h.fixed_le
  cases k
  all_goals
    dsimp only [layout] at hfix
    simp (disch := omega) only [command, requestCommandV1, responseCommandV1, requestCommandV2,
      responseCommandV2, hsec, slice_append_left, List.getD_append]

end FrameKind

/-! ## §4. The decoders. -/

/-- The `if len > 0` around a section does nothing: an empty section is the
empty slice. -/
theorem readSections_eq (l : Layout) (b : List UInt8) (cl hl : UInt16) (ct : UInt32)
    (hcl : cl.toNat = l.classLen b) (hhl : hl.toNat = l.headerLen b)
    (hct : ct.toNat = l.contentLen b) : readSections b l.fixed cl hl ct = l.sections b := by
  have hempty : ∀ (c : Prop) [Decidable c] (n r : Nat), (¬ c → n = 0) →
      (if c then (slice b r (r + n), r + n) else ([], r)) = (slice b r (r + n), r + n) := by
    intro c _ n r hn
    split
    next => rfl
    next hc => rw [hn hc, Nat.add_zero, slice_self]
  have h16 (n : UInt16) (r : Nat) := hempty (0 < n) n.toNat r fun hn => by
    rw [UInt16.lt_iff_toNat_lt] at hn
    simpa using hn
  have h32 (n : UInt32) (r : Nat) := hempty (0 < n) n.toNat r fun hn => by
    rw [UInt32.lt_iff_toNat_lt] at hn
    simpa using hn
  simp only [readSections, h16, h32]
  rw [hcl, hhl, hct]
  rfl

/-- The shape all four branches share: wait for the fixed header, wait for
the announced length, cut the sections. -/
theorem cut_eq {α : Type} (l : Layout) (b : List UInt8) (cl hl : UInt16) (ct : UInt32)
    (hcl : cl.toNat = l.classLen b) (hhl : hl.toNat = l.headerLen b)
    (hct : ct.toNat = l.contentLen b) (f : Sections → α) : (if l.fixed ≤ b.length then
        if l.fixed + cl.toNat + hl.toNat + ct.toNat ≤ b.length
        then some (f (readSections b l.fixed cl hl ct)) else none
      else none)
      = if l.Complete b then some (f (l.sections b)) else none := by
  rw [readSections_eq l b cl hl ct hcl hhl hct, hcl, hhl, hct]
  by_cases hc : l.Complete b
  · rw [if_pos hc.fixed_le, if_pos hc]
    exact if_pos hc
  · rw [if_neg hc]
    split
    · exact if_neg hc
    · rfl

theorem BoltV1Codec.decodeRequest_eq (b : List UInt8) :
    decodeRequest b = if FrameKind.requestV1.layout.Complete b
      then some (requestCommandV1 b, FrameKind.requestV1.layout.frameLen b) else none :=
  cut_eq FrameKind.requestV1.layout b _ _ _ (uint16_slice b 14) (uint16_slice b 16)
    (uint32_slice b 18) fun s =>
      (({ requestCommandV1 b with
          className := s.className, headerMap := s.header, content := s.content
          : BoltRequestCommand }), s.read)

variable (now : Int)

theorem BoltV1Codec.decodeResponse_eq (b : List UInt8) :
    decodeResponse now b = if FrameKind.responseV1.layout.Complete b
      then some (responseCommandV1 now b, FrameKind.responseV1.layout.frameLen b)
      else none :=
  cut_eq FrameKind.responseV1.layout b _ _ _ (uint16_slice b 12) (uint16_slice b 14)
    (uint32_slice b 16) fun s =>
      (({ responseCommandV1 now b with
          className := s.className, headerMap := s.header, content := s.content
          : BoltResponseCommand }), s.read)

theorem BoltV2Codec.decodeRequest_eq (b : List UInt8) :
    decodeRequest b = if FrameKind.requestV2.layout.Complete b
      then some (requestCommandV2 b, FrameKind.requestV2.layout.frameLen b) else none :=
  cut_eq FrameKind.requestV2.layout b _ _ _ (uint16_slice b 16) (uint16_slice b 18)
    (uint32_slice b 20) fun s =>
      (({ requestCommandV2 b with
          className := s.className, headerMap := s.header, content := s.content
          : BoltV2RequestCommand }), s.read)

theorem BoltV2Codec.decodeResponse_eq (b : List UInt8) :
    decodeResponse now b = if FrameKind.responseV2.layout.Complete b
      then some (responseCommandV2 now b) else none :=
  cut_eq FrameKind.responseV2.layout b _ _ _ (uint16_slice b 14) (uint16_slice b 16)
    (uint32_slice b 18) fun s =>
      ({ responseCommandV2 now b with
          className := s.className, headerMap := s.header, content := s.content
          : BoltV2ResponseCommand })

/-- The read buffer after a complete frame of kind `k`: the V2 response
branch has no `Drain`. -/
def FrameKind.advance (k : FrameKind) (data : IoBuffer) : IoBuffer :=
  match k with
  | responseV2 => data
  | k => data.drain (k.layout.frameLen data.bytes)

/-- What both decoders do, each with its least length and its error for an
unknown type. -/
def decodeAhead (least : Nat) (unknown : GoError) (data : IoBuffer) : DecodeResult × IoBuffer :=
  if least ≤ data.len then
    match FrameKind.ahead data.bytes with
    | some k =>
      if k.layout.Complete data.bytes
      then (.ok (some (k.command now data.bytes)), k.advance data) else (.ok none, data)
    | none => (.error unknown, data)
  else (.ok none, data)

/-- **The V1 decoder** on a buffer that starts with its protocol code. -/
theorem BoltV1Codec.decode_eq (data : IoBuffer)
    (hcode : data.bytes.getD 0 0 = protocolCodeV1) : decode now data
      = decodeAhead now lessLenV1 (unknownTypeError (data.bytes.getD 1 0)) data := by
  simp only [decode, decodeRequest_eq, decodeResponse_eq, decodeAhead, FrameKind.ahead_v1 hcode]
  -- the type byte decides the branch, then completeness the result
  split_ifs with _ _ hc _ hc
  · exact (if_pos hc).symm
  · exact (if_neg hc).symm
  · exact (if_pos hc).symm
  · exact (if_neg hc).symm
  · rfl
  · rfl

/-- **The V2 decoder** on a buffer that starts with its protocol code. -/
theorem BoltV2Codec.decode_eq (data : IoBuffer)
    (hcode : data.bytes.getD 0 0 = protocolCodeV2) : decode now data
      = decodeAhead now lessLenV2 (BoltV1Codec.unknownTypeError (data.bytes.getD 2 0)) data := by
  simp only [decode, decodeRequest_eq, decodeResponse_eq, decodeAhead, FrameKind.ahead_v2 hcode]
  -- the type byte decides the branch, then completeness the result
  split_ifs with _ _ hc _ hc
  · exact (if_pos hc).symm
  · exact (if_neg hc).symm
  · exact (if_pos hc).symm
  · exact (if_neg hc).symm
  · rfl
  · rfl

variable {k : FrameKind} {data : IoBuffer}

theorem decodeAhead_at {least : Nat} {unknown : GoError} (now : Int) (hk : k.At data.bytes)
    (hlen : least ≤ data.len) : decodeAhead now least unknown data
      = (.ok (some (k.command now data.bytes)), k.advance data) := by
  rw [decodeAhead, if_pos hlen, hk.1]
  exact if_pos hk.2

theorem BoltV1Codec.decode_at (now : Int) (hk : k.At data.bytes) (hcode : k.code = protocolCodeV1) :
    decode now data = (.ok (some (k.command now data.bytes)), k.advance data) := by
  have hlen : lessLenV1 ≤ data.len := by
    rw [← IoBuffer.length_bytes]
    refine Nat.le_trans ?_ hk.2.fixed_le
    cases k <;> decide
  rw [decode_eq now data (hk.code_eq.trans hcode), decodeAhead_at now hk hlen]

theorem BoltV1Codec.decode_frame {b : List UInt8} (now : Int) (hk : k.At b)
    (hcode : k.code = protocolCodeV1) : decode now (.newIoBufferBytes b)
      = (.ok (some (k.command now b)), k.advance (.newIoBufferBytes b)) := by
  have hbytes := IoBuffer.bytes_newIoBufferBytes b
  have hdec := decode_at now (hbytes.symm ▸ hk : k.At (IoBuffer.newIoBufferBytes b).bytes) hcode
  rw [hbytes] at hdec
  exact hdec

theorem BoltV2Codec.decode_at (now : Int) (hk : k.At data.bytes) (hcode : k.code = protocolCodeV2) :
    decode now data = (.ok (some (k.command now data.bytes)), k.advance data) := by
  have hlen : lessLenV2 ≤ data.len := by
    rw [← IoBuffer.length_bytes]
    refine Nat.le_trans ?_ hk.2.fixed_le
    cases k with
    | requestV1 | responseV1 => exact absurd hcode (by decide)
    | requestV2 => decide
    | responseV2 => decide
  rw [decode_eq now data (hk.code_eq.trans hcode), decodeAhead_at now hk hlen]

end Mosn.Protocol.SofaRpc
