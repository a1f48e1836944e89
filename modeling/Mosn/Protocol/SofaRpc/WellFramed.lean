/-
  Mosn.Protocol.SofaRpc.WellFramed
  **THE LENGTH FIELDS OF A FRAME WRITTEN FROM A HEADER MAP.**

  `mapToCmd` takes the class length from one property and the class from
  another, and the encoder writes the length of the header section in 16 bits
  whatever it is.  Nothing compares the two lengths with what is written
  behind the fixed header; nor is the type byte compared with the command
  code, by which the encoder chooses the layout.
-/
import Mosn.Protocol.SofaRpc.DecodeLoop
import Mosn.Protocol.SofaRpc.EncodeHeaders

namespace Mosn.Protocol.SofaRpc

open Mosn.Lib Mosn.Types Mosn.Network Mosn.Protocol.Serialize BoltV1Codec

/-! ## §1. What the sender writes. -/

section Sent

variable (order : HeaderOrder) (m : HeaderMap)

/-- The kind of frame that is written from the map. -/
def sentKind : FrameKind :=
  if valueOf m headerCmdCode = .int16 rpcRequest then .requestV1
  else .responseV1

/-- The class length it announces. -/
def sentClassLen : Int16 :=
  match valueOf m headerClassLen with
  | .int16 v => v
  | _ => 0

/-- The class of the map. -/
def sentClassName : List UInt8 :=
  serialize order (valueOf m headerClassName)

/-- The class bytes that are written. -/
def sentClass : List UInt8 := writtenClass (sentClassLen m) (sentClassName order m)

/-- The properties that go into the fixed header. -/
def sentProperties : List GoString :=
  match sentKind m with
  | .requestV1 => requestProperties
  | _ => responseProperties

/-- The header bytes that are written: all other entries. -/
def sentHeader : List UInt8 :=
  serialize order (.stringMap (GoMap.deleteAll m (sentProperties m)))

end Sent

/-- `className` and `header` are the bytes behind the fixed header of the
frame, and its length fields count them. -/
@[local grind cases]
structure LengthsRight (k : FrameKind) (b className header : List UInt8) : Prop where
  behind : b.drop k.layout.fixed = className ++ header
  class_eq : k.layout.classLen b = className.length
  header_eq : k.layout.headerLen b = header.length

/-- The sizes in the map are those of what is written from it. -/
structure SizesRight (order : HeaderOrder) (m : HeaderMap) : Prop where
  class_nonneg : 0 ≤ (sentClassLen m).toInt
  class_eq : 0 < (sentClassLen m).toInt →
    (sentClassName order m).length = (sentClassLen m).toInt
  header_lt : (sentHeader order m).length < 2 ^ 16

/-- The type in the map is one of the kind that is written from it. -/
@[local grind]
def TypeRight (m : HeaderMap) : Prop :=
  ∃ type, valueOf m headerCmdType = .uint8 type
    ∧ FrameKind.ofBytes protocolCodeV1 type = some (sentKind m)

/-! ## §2. The fields. -/

theorem toNat_eq_length_writtenClass (v : Int16) (className : List UInt8) :
    v.toUInt16.toNat = (writtenClass v className).length
      ↔ 0 ≤ v.toInt ∧ (0 < v.toInt → (className.length : Int) = v.toInt) := by
  have hv := toInt_toInt16 v.toUInt16
  have hlt := v.toUInt16.toNat_lt
  rw [Int16.toInt16_toUInt16] at hv
  have hpos : 0 < v ↔ 0 < v.toInt := Int16.lt_iff_toInt_lt
  unfold writtenClass
  by_cases h : 0 < v
  · rw [if_pos h]
    have := hpos.mp h
    split at hv <;> omega
  · rw [if_neg h, List.length_nil]
    have := mt hpos.mpr h
    split at hv <;> omega

theorem lengthsRight_iff {k : FrameKind} {F className header : List UInt8} {v : Int16}
    (hF : F.length = k.layout.fixed)
    (hclass : slice (F ++ writtenClass v className ++ header) k.layout.classAt
      (k.layout.classAt + 2) = putUint16 v.toUInt16)
    (hheader : slice (F ++ writtenClass v className ++ header) k.layout.headerAt
      (k.layout.headerAt + 2) = putUint16 (UInt16.ofNat header.length)) :
    LengthsRight k (F ++ writtenClass v className ++ header) (writtenClass v className) header
      ↔ (0 ≤ v.toInt ∧ (0 < v.toInt → (className.length : Int) = v.toInt))
        ∧ header.length < 2 ^ 16 := by
  have hbehind : (F ++ writtenClass v className ++ header).drop k.layout.fixed
      = writtenClass v className ++ header := by
    rw [List.append_assoc, ← hF, List.drop_left]
  have hcl : k.layout.classLen (F ++ writtenClass v className ++ header) = v.toUInt16.toNat := by
    rw [Layout.classLen, hclass, get_putUint16]
  have hhd : k.layout.headerLen (F ++ writtenClass v className ++ header)
      = header.length % 2 ^ 16 := by
    rw [Layout.headerLen, hheader, get_putUint16, UInt16.toNat_ofNat']
  rw [← toNat_eq_length_writtenClass]
  constructor
  · grind
  · rintro ⟨hc, hlt⟩
    exact ⟨hbehind, hcl.trans hc, hhd.trans (Nat.mod_eq_of_lt hlt)⟩

/-! ## §3. Frames written from a map. -/

section Written

variable {order : HeaderOrder} {m rest : HeaderMap}

theorem BoltV1Codec.RequestOf.sent {c : BoltRequestCommand} (hc : RequestOf order m rest c) :
    sentKind m = .requestV1 ∧ sentClassLen m = c.classLen
      ∧ sentClassName order m = c.className ∧ sentHeader order m = c.headerMap := by
  have hkind : sentKind m = .requestV1 := by
    unfold sentKind
    rw [hc.cmdCode, hc.isRequest, if_pos rfl]
  refine ⟨hkind, ?_, hc.className.symm, ?_⟩
  · rw [sentClassLen, hc.classLen]
  · rw [hc.headerMap, hc.rest_eq, sentHeader, sentProperties, hkind]

theorem BoltV1Codec.ResponseOf.sent {c : BoltResponseCommand} (hc : ResponseOf order m rest c) :
    sentKind m = .responseV1 ∧ sentClassLen m = c.classLen
      ∧ sentClassName order m = c.className ∧ sentHeader order m = c.headerMap := by
  have hkind : sentKind m = .responseV1 := by
    unfold sentKind
    rw [hc.cmdCode, if_neg]
    rw [GoValue.int16.injEq]
    rcases hc.isResponse with h | h
    · rw [h]
      decide
    · rw [h]
      decide
  refine ⟨hkind, ?_, hc.className.symm, ?_⟩
  · rw [sentClassLen, hc.classLen]
  · rw [hc.headerMap, hc.rest_eq, sentHeader, sentProperties, hkind]

theorem encodeHeaders_map_written {τ : Type} {h₁ h₂ : BoltCommandHandler τ}
    {pool : Option SlabPool} {buf : IoBuffer} {left : Headers}
    (h : (defaultProtocols h₁ h₂).encodeHeaders order pool (.map m) = .ok (.ok buf, left)) :
    ∃ F type, F.length = (sentKind m).layout.fixed
      ∧ buf.bytes = F ++ sentClass order m ++ sentHeader order m
      ∧ slice buf.bytes (sentKind m).layout.classAt ((sentKind m).layout.classAt + 2)
        = putUint16 (sentClassLen m).toUInt16
      ∧ slice buf.bytes (sentKind m).layout.headerAt ((sentKind m).layout.headerAt + 2)
        = putUint16 (UInt16.ofNat (sentHeader order m).length)
      ∧ valueOf m headerCmdType = .uint8 type
      ∧ FrameKind.ahead buf.bytes = FrameKind.ofBytes protocolCodeV1 type := by
  obtain ⟨rest, -, hcode, ⟨c, hc, hbytes⟩ | ⟨c, hc, hbytes⟩⟩ := encodeHeaders_map_frame h
  · obtain ⟨hkind, hlen, hname, hheader⟩ := hc.sent
    have hproto := GoValue.uint8.inj (hc.protocol.symm.trans hcode)
    obtain ⟨h0, h1, -, -, -, -, -, h14, h16, -⟩ :=
      requestFixed_fields c (writtenClass c.classLen c.className ++ c.headerMap)
    rw [← List.append_assoc, ← requestBytes, ← hbytes] at h0 h1 h14 h16
    refine ⟨requestFixed c, c.cmdType, ?_, ?_, ?_, ?_, hc.cmdType, ?_⟩
    · rw [hkind]
      simp [requestFixed, FrameKind.layout]
    · rw [sentClass, hlen, hname, hheader, hbytes, requestBytes]
    · rw [hkind, hlen]
      exact h14
    · rw [hkind, hheader]
      exact h16
    · rw [FrameKind.ahead_v1 (h0.trans hproto), h1]
      rfl
  · obtain ⟨hkind, hlen, hname, hheader⟩ := hc.sent
    have hproto := GoValue.uint8.inj (hc.protocol.symm.trans hcode)
    obtain ⟨h0, h1, -, -, -, -, -, h12, h14, -⟩ :=
      responseFixed_fields c (writtenClass c.classLen c.className ++ c.headerMap)
    rw [← List.append_assoc, ← responseBytes, ← hbytes] at h0 h1 h12 h14
    refine ⟨responseFixed c, c.cmdType, ?_, ?_, ?_, ?_, hc.cmdType, ?_⟩
    · rw [hkind]
      simp [responseFixed, FrameKind.layout]
    · rw [sentClass, hlen, hname, hheader, hbytes, responseBytes]
    · rw [hkind, hlen]
      exact h12
    · rw [hkind, hheader]
      exact h14
    · rw [FrameKind.ahead_v1 (h0.trans hproto), h1]
      rfl

/-- A receiver takes the frame for one of the kind it was written as, and its
length fields count what was written. -/
def SplitsAsSent (order : HeaderOrder) (m : HeaderMap)
    (b : List UInt8) : Prop :=
  FrameKind.ahead b = some (sentKind m)
    ∧ LengthsRight (sentKind m) b (sentClass order m) (sentHeader order m)

/-- **When a frame written from a map is well framed.**  Its length fields
count the class and header bytes behind its fixed header if and only if the
map's class length is that of its class (or is zero) and the header section
has less than 2¹⁶ bytes; a receiver then splits it as it was written if and
only if, besides, the map's type is one for its command code. -/
theorem wellFramed_iff {τ : Type} {h₁ h₂ : BoltCommandHandler τ} {pool : Option SlabPool}
    {buf : IoBuffer} {left : Headers}
    (h : (defaultProtocols h₁ h₂).encodeHeaders order pool (.map m) = .ok (.ok buf, left)) :
    (LengthsRight (sentKind m) buf.bytes (sentClass order m) (sentHeader order m)
        ↔ SizesRight order m)
      ∧ (SplitsAsSent order m buf.bytes ↔ SizesRight order m ∧ TypeRight m) := by
  obtain ⟨F, type, hF, hbytes, hclass, hheader, htype, hahead⟩ := encodeHeaders_map_written h
  have hlengths : LengthsRight (sentKind m) buf.bytes (sentClass order m) (sentHeader order m)
      ↔ SizesRight order m := by
    rw [hbytes] at hclass hheader ⊢
    refine (lengthsRight_iff hF hclass hheader).trans ?_
    constructor
    · rintro ⟨⟨hnonneg, heq⟩, hlt⟩
      exact ⟨hnonneg, heq, hlt⟩
    · intro hs
      exact ⟨⟨hs.class_nonneg, hs.class_eq⟩, hs.header_lt⟩
  have htypes : FrameKind.ahead buf.bytes = some (sentKind m) ↔ TypeRight m := by grind
  refine ⟨hlengths, ?_⟩
  unfold SplitsAsSent
  rw [hlengths, htypes, and_comm]

end Written

/-- A request of class `a` that announces a class of `classLen` bytes. -/
def requestOfClassA (classLen : Int16) : BoltRequestCommand where
  protocol := protocolCodeV1
  cmdType := request
  cmdCode := rpcRequest
  version := 1
  reqID := 7
  codecPro := 1
  timeout := 100
  classLen := classLen
  headerLen := 0
  contentLen := 0
  className := [97]
  headerMap := []
  content := []
  requestHeader := none

/-- Its header map. -/
def mapOfClassA (classLen : Int16) : HeaderMap :=
  ∅ ∪ GoMap.insertAll ∅ (requestFields (requestOfClassA classLen))

variable (classLen : Int16)

theorem mapToCmd_mapOfClassA (h : 0 ≤ classLen.toInt) :
    mapToCmd GoMap.someOrder (mapOfClassA classLen)
      = .ok (some (.boltRequest (requestOfClassA classLen)), ∅) := by
  have hcmd := mapToCmd_requestFields GoMap.someOrder ∅ (requestOfClassA classLen)
    (fun _ _ => Finmap.notMem_empty) rfl h
    (show 0 ≤ (0 : Int16).toInt by decide) ⟨100, rfl, by decide⟩ ⟨0, rfl, by decide⟩
  rw [GoMap.Listing.entries_empty] at hcmd
  exact hcmd

theorem encodeHeaders_mapOfClassA (h : 0 ≤ classLen.toInt) :
    ∃ buf, (defaultProtocols idleHandler idleHandler).encodeHeaders GoMap.someOrder none
        (.map (mapOfClassA classLen)) = .ok (.ok buf, .map ∅)
      ∧ buf.bytes = requestBytes (requestOfClassA classLen) := by
  obtain ⟨buf, henc, hbytes⟩ :=
    encodeHeaders_map_request GoMap.someOrder none (mapToCmd_mapOfClassA classLen h) h
  refine ⟨buf, ?_, hbytes⟩
  rw [encodeHeaders_map_v1 _ _ _ _ _ (formatUint64 1) _ (convertPropertyValue_uint8 1)]
  · exact henc
  · exact lookup_fields ∅ _ _ _ Finmap.notMem_empty (requestFields_nodup _) List.mem_cons_self

theorem requestOf_mapOfClassA (h : 0 ≤ classLen.toInt) :
    RequestOf GoMap.someOrder (mapOfClassA classLen) ∅ (requestOfClassA classLen) :=
  mapToCmd_requestOf (mapToCmd_mapOfClassA classLen h)

/-- A class length of one is right. -/
theorem wellFramed_class_of_one :
    ∃ buf, (defaultProtocols idleHandler idleHandler).encodeHeaders GoMap.someOrder none
        (.map (mapOfClassA 1)) = .ok (.ok buf, .map ∅)
      ∧ SplitsAsSent GoMap.someOrder (mapOfClassA 1) buf.bytes := by
  obtain ⟨buf, henc, -⟩ := encodeHeaders_mapOfClassA 1 (by decide)
  have hof := requestOf_mapOfClassA 1 (by decide)
  obtain ⟨hkind, hlen, hname, hheader⟩ := hof.sent
  refine ⟨buf, henc, (wellFramed_iff henc).2.mpr ⟨⟨?_, ?_, ?_⟩, _, hof.cmdType, ?_⟩⟩
  · rw [hlen]
    decide
  · rw [hlen, hname]
    decide
  · rw [hheader]
    decide
  · rw [hkind]
    rfl

/-- **A class length of five is written in front of one byte of class.** -/
theorem class_length_not_checked :
    ∃ buf, (defaultProtocols idleHandler idleHandler).encodeHeaders GoMap.someOrder none
        (.map (mapOfClassA 5)) = .ok (.ok buf, .map ∅)
      ∧ FrameKind.requestV1.At (buf.bytes ++ [0, 0, 0, 0])
      ∧ FrameKind.requestV1.layout.classLen buf.bytes = 5
      ∧ buf.bytes.drop 22 = [97] := by
  obtain ⟨buf, henc, hbytes⟩ := encodeHeaders_mapOfClassA 5 (by decide)
  refine ⟨buf, henc, ?_, ?_, ?_⟩
  · rw [hbytes]
    decide
  · rw [hbytes]
    decide
  · rw [hbytes]
    decide

end Mosn.Protocol.SofaRpc
