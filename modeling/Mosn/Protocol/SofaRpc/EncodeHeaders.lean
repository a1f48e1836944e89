/-
  Mosn.Protocol.SofaRpc.EncodeHeaders
  **WHAT ENCODING A HEADER MAP NEEDS, WRITES AND LEAVES.**

  The map given to `EncodeHeaders` is the caller's own, and encoding takes
  its properties out.  A frame that was written is read backwards here: every
  field of its command was a property of the map.
-/
import Mosn.Protocol.SofaRpc.Codec.RoundTrip
import Mosn.Protocol.SofaRpc.PropertyMap

namespace Mosn.Protocol.SofaRpc

open Mosn.Lib Mosn.Types Mosn.Network Mosn.Protocol.Serialize

/-! ## §1. The command of a map. -/

variable {v : GoValue}

theorem assertUint8_eq_ok {x : UInt8} : assertUint8 v = .ok x ↔ v = .uint8 x := by
  cases v <;> simp [assertUint8]

theorem assertUint32_eq_ok {x : UInt32} : assertUint32 v = .ok x ↔ v = .uint32 x := by
  cases v <;> simp [assertUint32]

theorem assertInt16_eq_ok {x : Int16} : assertInt16 v = .ok x ↔ v = .int16 x := by
  cases v <;> simp [assertInt16]

theorem assertInt_eq_ok {x : Int} : assertInt v = .ok x ↔ v = .int x := by
  cases v <;> simp [assertInt]

/-- Keys only go, values do not change. -/
def Shrinks (m m' : HeaderMap) : Prop := ∀ k v, m'.lookup k = some v → m.lookup k = some v

theorem Shrinks.refl (m : HeaderMap) : Shrinks m m := fun _ _ h => h

theorem Shrinks.trans {m₁ m₂ m₃ : HeaderMap} (h₁ : Shrinks m₁ m₂) (h₂ : Shrinks m₂ m₃) :
    Shrinks m₁ m₃ := fun k v h => h₁ k v (h₂ k v h)

theorem shrinks_erase (m : HeaderMap) (k : GoString) : Shrinks m (m.erase k) := by
  intro k' v h
  rw [GoMap.lookup_erase_ite] at h
  split at h
  · cases h
  · exact h

theorem shrinks_deleteAll (m : HeaderMap) (ks : List GoString) :
    Shrinks m (GoMap.deleteAll m ks) := by
  intro k v h
  rw [GoMap.lookup_deleteAll] at h
  split at h
  · cases h
  · exact h

/-- The ten properties that every kind of command has. -/
def commonProperties : List GoString :=
  [headerProtocolCode, headerCmdType, headerCmdCode, headerVersion, headerReqID, headerCodec,
    headerClassLen, headerHeaderLen, headerContentLen, headerClassName]

/-- The request id of a V1 command. -/
def Command.reqIDV1 : Command → Option UInt32
  | .boltRequest c => some c.reqID
  | .boltResponse c => some c.reqID
  | _ => none

namespace BoltV1Codec

variable {order : HeaderOrder} {m rest : HeaderMap}

/-- The request that a map stands for, and what is left of the map. -/
structure RequestOf (order : HeaderOrder) (m rest : HeaderMap)
    (c : BoltRequestCommand) : Prop where
  protocol : valueOf m headerProtocolCode = .uint8 c.protocol
  cmdType : valueOf m headerCmdType = .uint8 c.cmdType
  cmdCode : valueOf m headerCmdCode = .int16 c.cmdCode
  version : valueOf m headerVersion = .uint8 c.version
  reqID : valueOf m headerReqID = .uint32 c.reqID
  codecPro : valueOf m headerCodec = .uint8 c.codecPro
  timeout : valueOf m headerTimeout = .int c.timeout
  classLen : valueOf m headerClassLen = .int16 c.classLen
  contentLen : valueOf m headerContentLen = .int c.contentLen
  isRequest : c.cmdCode = rpcRequest
  className : c.className
    = serialize order (valueOf m headerClassName)
  rest_eq : rest = GoMap.deleteAll m requestProperties
  headerMap : c.headerMap = serialize order (.stringMap rest)

/-- The response that a map stands for, and what is left of the map. -/
structure ResponseOf (order : HeaderOrder) (m rest : HeaderMap)
    (c : BoltResponseCommand) : Prop where
  protocol : valueOf m headerProtocolCode = .uint8 c.protocol
  cmdType : valueOf m headerCmdType = .uint8 c.cmdType
  cmdCode : valueOf m headerCmdCode = .int16 c.cmdCode
  version : valueOf m headerVersion = .uint8 c.version
  reqID : valueOf m headerReqID = .uint32 c.reqID
  codecPro : valueOf m headerCodec = .uint8 c.codecPro
  responseStatus : valueOf m headerRespStatus
    = .int16 c.responseStatus
  classLen : valueOf m headerClassLen = .int16 c.classLen
  contentLen : valueOf m headerContentLen = .int c.contentLen
  isResponse : c.cmdCode = rpcResponse ∨ c.cmdCode = heartbeat
  className : c.className
    = serialize order (valueOf m headerClassName)
  rest_eq : rest = GoMap.deleteAll m responseProperties
  headerMap : c.headerMap = serialize order (.stringMap rest)

/-- **What `mapToCmd` takes and gives**: a map of less than ten entries is
left alone; any other stands for a request, for a response, or for nothing the
codec knows. -/
theorem mapToCmd_cases {cmd : Option Command} (h : mapToCmd order m = .ok (cmd, rest)) :
    (m.len < 10 ∧ cmd = none ∧ rest = m)
      ∨ (10 ≤ m.len ∧ ∃ c, cmd = some (.boltRequest c) ∧ RequestOf order m rest c)
      ∨ (10 ≤ m.len ∧ ∃ c, cmd = some (.boltResponse c) ∧ ResponseOf order m rest c)
      ∨ (10 ≤ m.len ∧ cmd = none ∧ rest = GoMap.deleteAll m commonProperties
        ∧ ¬ valueOf m headerCmdCode = .int16 rpcRequest
        ∧ ¬ (valueOf m headerCmdCode = .int16 rpcResponse
          ∨ valueOf m headerCmdCode = .int16 heartbeat)) := by
  by_cases hlen : m.len < 10
  · simp only [mapToCmd, hlen, ↓reduceIte] at h
    cases h
    exact Or.inl ⟨hlen, rfl, rfl⟩
  · have hge : 10 ≤ m.len := by omega
    right
    have hne := boltProperties_ne
    simp only [boltProperties, List.pairwise_cons, List.forall_mem_cons] at hne
    simp only [mapToCmd, hlen, ↓reduceIte, getPropertyValue_eq, propertyValue_erase_ne, hne,
      not_false_eq_true] at h
    -- the command is built by one type assertion after the other
    split at h
    next hcode =>
      simp only [bind_eq_ok, pure, Except.pure, Except.ok.injEq, Prod.mk.injEq] at h
      obtain ⟨_, h1, _, h2, _, h3, _, h4, _, h5, _, h6, _, h7, _, h8, _, -, _, h10, hcmd, hrest⟩
        := h
      rw [hcode] at h3
      cases h3
      exact Or.inl ⟨hge, _, hcmd.symm,
        { protocol := assertUint8_eq_ok.mp h1
          cmdType := assertUint8_eq_ok.mp h2
          cmdCode := hcode
          version := assertUint8_eq_ok.mp h4
          reqID := assertUint32_eq_ok.mp h5
          codecPro := assertUint8_eq_ok.mp h6
          timeout := assertInt_eq_ok.mp h7
          classLen := assertInt16_eq_ok.mp h8
          contentLen := assertInt_eq_ok.mp h10
          isRequest := rfl
          className := rfl
          rest_eq := hrest.symm
          headerMap := by rw [← hrest] }⟩
    next hnreq =>
      split at h
      next hcode =>
        simp only [bind_eq_ok, pure, Except.pure, Except.ok.injEq, Prod.mk.injEq] at h
        obtain ⟨_, h1, _, h2, c, h3, _, h4, _, h5, _, h6, _, h7, _, h8, _, -, _, h10, _, -, hcmd,
          hrest⟩ := h
        have hc := assertInt16_eq_ok.mp h3
        rw [hc] at hcode
        exact Or.inr (Or.inl ⟨hge, _, hcmd.symm,
          { protocol := assertUint8_eq_ok.mp h1
            cmdType := assertUint8_eq_ok.mp h2
            cmdCode := hc
            version := assertUint8_eq_ok.mp h4
            reqID := assertUint32_eq_ok.mp h5
            codecPro := assertUint8_eq_ok.mp h6
            responseStatus := assertInt16_eq_ok.mp h7
            classLen := assertInt16_eq_ok.mp h8
            contentLen := assertInt_eq_ok.mp h10
            isResponse := by
              simp only [GoValue.int16.injEq] at hcode
              exact hcode
            className := rfl
            rest_eq := hrest.symm
            headerMap := by rw [← hrest] }⟩)
      next hnresp =>
        cases h
        exact Or.inr (Or.inr ⟨hge, rfl, rfl, hnreq, hnresp⟩)

theorem mapToCmd_requestOf {c : BoltRequestCommand}
    (h : mapToCmd order m = .ok (some (.boltRequest c), rest)) : RequestOf order m rest c := by
  rcases mapToCmd_cases h
    with ⟨-, hc, -⟩ | ⟨-, c', hc, hof⟩ | ⟨-, c', hc, -⟩ | ⟨-, hc, -⟩
  · cases hc
  · cases hc
    exact hof
  · cases hc
  · cases hc

theorem mapToCmd_shrinks {cmd : Option Command} (h : mapToCmd order m = .ok (cmd, rest)) :
    Shrinks m rest := by
  rcases mapToCmd_cases h with ⟨-, -, hrest⟩ | ⟨-, c, -, hc⟩ | ⟨-, c, -, hc⟩ | ⟨-, -, hrest, -⟩
  · rw [hrest]
    exact Shrinks.refl m
  · rw [hc.rest_eq]
    exact shrinks_deleteAll m _
  · rw [hc.rest_eq]
    exact shrinks_deleteAll m _
  · rw [hrest]
    exact shrinks_deleteAll m _

end BoltV1Codec

/-! ## §2. The frame of a map. -/

theorem slice_requestBytes_reqID (c : BoltRequestCommand) :
    slice (requestBytes c) 5 9 = putUint32 c.reqID := by
  unfold requestBytes
  rw [List.append_assoc]
  exact (requestFixed_fields c _).2.2.2.2.1

theorem slice_responseBytes_reqID (c : BoltResponseCommand) :
    slice (responseBytes c) 5 9 = putUint32 c.reqID := by
  unfold responseBytes
  rw [List.append_assoc]
  exact (responseFixed_fields c _).2.2.2.2.1

namespace BoltV1Codec

variable {pool : Option SlabPool} {cmd : Option Command} {buf : IoBuffer}

theorem encodeHeadersCmd_bytes (h : encodeHeadersCmd pool cmd = .ok (.ok buf)) :
    (∃ c, cmd = some (.boltRequest c) ∧ buf.bytes = requestBytes c)
      ∨ (∃ c, cmd = some (.boltResponse c) ∧ buf.bytes = responseBytes c) := by
  cases cmd with
  | none => cases h
  | some c =>
    cases c with
    | boltRequest c =>
      obtain ⟨b, henc, hb⟩ := map_eq_ok.mp h
      cases hb
      exact Or.inl ⟨c, rfl, doEncodeRequestCommand_bytes henc⟩
    | boltResponse c =>
      obtain ⟨b, henc, hb⟩ := map_eq_ok.mp h
      cases hb
      exact Or.inr ⟨c, rfl, doEncodeResponseCommand_bytes henc⟩
    | boltV2Request c => cases h
    | boltV2Response c => cases h

theorem encodeHeadersCmd_ok (h : encodeHeadersCmd pool cmd = .ok (.ok buf)) :
    ∃ c q, cmd = some c ∧ c.reqIDV1 = some q ∧ slice buf.bytes 5 9 = putUint32 q := by
  rcases encodeHeadersCmd_bytes h with ⟨c, hc, hbytes⟩ | ⟨c, hc, hbytes⟩
  · exact ⟨_, c.reqID, hc, rfl, by rw [hbytes, slice_requestBytes_reqID]⟩
  · exact ⟨_, c.reqID, hc, rfl, by rw [hbytes, slice_responseBytes_reqID]⟩

theorem encodeHeaders_map {order : HeaderOrder}
    {m : HeaderMap} {r : Except GoError IoBuffer} {left : Headers}
    (h : encodeHeaders order pool (.map m) = .ok (r, left)) :
    ∃ cmd rest, mapToCmd order m = .ok (cmd, rest) ∧ encodeHeadersCmd pool cmd = .ok r
      ∧ left = .map rest := by
  simp only [encodeHeaders, bind_eq_ok, pure, Except.pure, Except.ok.injEq, Prod.mk.injEq] at h
  obtain ⟨⟨cmd, rest⟩, hcmd, r', hr, heq, hleft⟩ := h
  cases heq
  exact ⟨cmd, rest, hcmd, hr, hleft.symm⟩

end BoltV1Codec

theorem BoltV2Codec.encodeHeaders_map {order : HeaderOrder}
    {pool : Option SlabPool} {m : HeaderMap} {r : Except GoError IoBuffer} {left : Headers}
    (h : encodeHeaders order pool (.map m) = .ok (r, left)) :
    r = .error ⟨invalidCommandType⟩ ∧ ∃ rest, left = .map rest ∧ Shrinks m rest := by
  simp only [encodeHeaders, bind_eq_ok, pure, Except.pure, Except.ok.injEq, Prod.mk.injEq] at h
  obtain ⟨⟨cmd, rest⟩, hcmd, r', hr, heq, hleft⟩ := h
  have hnone : cmd = none ∧ Shrinks m rest := by
    unfold mapToCmd at hcmd
    split at hcmd
    · cases hcmd
      exact ⟨rfl, Shrinks.refl m⟩
    · simp only [getPropertyValue_eq, bind_eq_ok, pure, Except.pure, Except.ok.injEq,
        Prod.mk.injEq] at hcmd
      obtain ⟨⟨cmdV1, rest₁⟩, hv1, hcmd, hrest⟩ := hcmd
      refine ⟨hcmd.symm, ?_⟩
      rw [← hrest]
      exact (BoltV1Codec.mapToCmd_shrinks hv1).trans ((shrinks_erase _ _).trans (shrinks_erase _ _))
  rw [hnone.1] at hr
  cases hr
  exact ⟨heq.symm, rest, hleft.symm, hnone.2⟩

section Registry

variable {τ : Type} {h₁ h₂ : BoltCommandHandler τ} {order : HeaderOrder}
  {pool : Option SlabPool} {m : HeaderMap} {r : Except GoError IoBuffer} {left : Headers}

theorem encodeHeaders_map_cases
    (h : (defaultProtocols h₁ h₂).encodeHeaders order pool (.map m) = .ok (r, left)) :
    (∃ e, r = .error e ∧ left = .map m)
      ∨ (∃ v, m.lookup headerProtocolCode = some v
        ∧ convertPropertyValue v .uint8 = .uint8 protocolCodeV1
        ∧ BoltV1Codec.encodeHeaders order pool (.map m) = .ok (r, left))
      ∨ BoltV2Codec.encodeHeaders order pool (.map m) = .ok (r, left) := by
  cases hlookup : m.lookup headerProtocolCode with
  | none =>
    simp only [Protocols.encodeHeaders, sofaPropertyHeader, hlookup] at h
    cases h
    exact Or.inl ⟨_, rfl, rfl⟩
  | some v =>
    have hcode : convertPropertyValue v .uint8 = .uint8 (UInt8.ofNat (Strconv.parseUint v 8).1) :=
      rfl
    simp only [Protocols.encodeHeaders, sofaPropertyHeader, hlookup, hcode, assertUint8,
      bind_eq_ok, Except.ok.injEq, exists_eq_left', defaultProtocols] at h
    by_cases hv1 : UInt8.ofNat (Strconv.parseUint v 8).1 = protocolCodeV1
    · simp only [hv1, ↓reduceIte] at h
      exact Or.inr (Or.inl ⟨v, rfl, by rw [hcode, hv1], h⟩)
    · by_cases hv2 : UInt8.ofNat (Strconv.parseUint v 8).1 = protocolCodeV2
      · have hne : ¬ protocolCodeV2 = protocolCodeV1 := by decide
        simp only [hv2, hne, ↓reduceIte] at h
        exact Or.inr (Or.inr h)
      · simp only [hv1, hv2, ↓reduceIte] at h
        cases h
        exact Or.inl ⟨_, rfl, rfl⟩

/-- **A map only loses keys.** -/
theorem encodeHeaders_map_left
    (h : (defaultProtocols h₁ h₂).encodeHeaders order pool (.map m) = .ok (r, left)) :
    ∃ m', left = .map m' ∧ Shrinks m m' := by
  rcases encodeHeaders_map_cases h with ⟨e, -, hleft⟩ | ⟨v, -, -, hv1⟩ | hv2
  · exact ⟨m, hleft, Shrinks.refl m⟩
  · obtain ⟨cmd, rest, hcmd, -, hleft⟩ := BoltV1Codec.encodeHeaders_map hv1
    exact ⟨rest, hleft, BoltV1Codec.mapToCmd_shrinks hcmd⟩
  · exact (BoltV2Codec.encodeHeaders_map hv2).2

theorem encodeHeaders_map_cmd {buf : IoBuffer}
    (h : (defaultProtocols h₁ h₂).encodeHeaders order pool (.map m) = .ok (.ok buf, left)) :
    ∃ cmd rest, BoltV1Codec.mapToCmd order m = .ok (cmd, rest)
      ∧ BoltV1Codec.encodeHeadersCmd pool cmd = .ok (.ok buf) ∧ left = .map rest
      ∧ BoltV1Codec.valueOf m headerProtocolCode
        = .uint8 protocolCodeV1 := by
  rcases encodeHeaders_map_cases h with ⟨e, he, -⟩ | ⟨v, hv, hcode, hv1⟩ | hv2
  · cases he
  · obtain ⟨cmd, rest, hcmd, henc, hleft⟩ := BoltV1Codec.encodeHeaders_map hv1
    exact ⟨cmd, rest, hcmd, henc, hleft, (propertyValue_some _ m _ v hv).trans hcode⟩
  · have herr := (BoltV2Codec.encodeHeaders_map hv2).1
    cases herr

/-- **A frame written from a map** is the V1 request or the V1 response that
the map stands for. -/
theorem encodeHeaders_map_frame {buf : IoBuffer}
    (h : (defaultProtocols h₁ h₂).encodeHeaders order pool (.map m) = .ok (.ok buf, left)) :
    ∃ rest, left = .map rest
      ∧ BoltV1Codec.valueOf m headerProtocolCode
        = .uint8 protocolCodeV1
      ∧ ((∃ c, BoltV1Codec.RequestOf order m rest c ∧ buf.bytes = requestBytes c)
        ∨ (∃ c, BoltV1Codec.ResponseOf order m rest c ∧ buf.bytes = responseBytes c)) := by
  obtain ⟨cmd, rest, hcmd, henc, hleft, hprotocol⟩ := encodeHeaders_map_cmd h
  refine ⟨rest, hleft, hprotocol, ?_⟩
  rcases BoltV1Codec.encodeHeadersCmd_bytes henc with ⟨c, rfl, hbytes⟩ | ⟨c, rfl, hbytes⟩
  · exact Or.inl ⟨c, BoltV1Codec.mapToCmd_requestOf hcmd, hbytes⟩
  · rcases BoltV1Codec.mapToCmd_cases hcmd
      with ⟨-, hc, -⟩ | ⟨-, c', hc, -⟩ | ⟨-, c', hc, hof⟩ | ⟨-, hc, -⟩
    · cases hc
    · cases hc
    · cases hc
      exact Or.inr ⟨c, hof, hbytes⟩
    · cases hc

/-- **A frame written from a map carries the map's request id.** -/
theorem encodeHeaders_map_ok {buf : IoBuffer}
    (h : (defaultProtocols h₁ h₂).encodeHeaders order pool (.map m) = .ok (.ok buf, left)) :
    ∃ v q, m.lookup headerReqID = some v ∧ convertPropertyValue v .uint32 = .uint32 q
      ∧ slice buf.bytes 5 9 = putUint32 q := by
  have hreq : ∃ q, BoltV1Codec.valueOf m headerReqID = .uint32 q
      ∧ slice buf.bytes 5 9 = putUint32 q := by
    obtain ⟨rest, -, -, ⟨c, hc, hbytes⟩ | ⟨c, hc, hbytes⟩⟩ := encodeHeaders_map_frame h
    · exact ⟨_, hc.reqID, by rw [hbytes, slice_requestBytes_reqID]⟩
    · exact ⟨_, hc.reqID, by rw [hbytes, slice_responseBytes_reqID]⟩
  obtain ⟨q, hprop, hslice⟩ := hreq
  unfold BoltV1Codec.valueOf propertyValue at hprop
  cases hlookup : m.lookup headerReqID with
  | none =>
    rw [hlookup] at hprop
    cases hprop
  | some v =>
    rw [hlookup] at hprop
    exact ⟨v, q, rfl, hprop, hslice⟩

end Registry

/-! ## §3. Encoding a flattened command. -/

section Encode

variable {τ : Type} (h₁ h₂ : BoltCommandHandler τ)
  (order : HeaderOrder) (pool : Option SlabPool)

theorem encodeHeaders_map_v1 (headers : HeaderMap) (v : GoString)
    (hlookup : headers.lookup headerProtocolCode = some v)
    (hv : convertPropertyValue v .uint8 = .uint8 protocolCodeV1) :
    (defaultProtocols h₁ h₂).encodeHeaders order pool (.map headers)
      = BoltV1Codec.encodeHeaders order pool (.map headers) := by
  simp only [Protocols.encodeHeaders, sofaPropertyHeader, hlookup, hv]
  rfl

variable {headers rest : HeaderMap}

theorem encodeHeaders_map_written_as {c : Command} {enc : Except Panic IoBuffer} {buf : IoBuffer}
    (hcmd : BoltV1Codec.mapToCmd order headers = .ok (some c, rest))
    (henc : BoltV1Codec.encodeHeadersCmd pool (some c) = enc.map .ok) (hbuf : enc = .ok buf) :
    BoltV1Codec.encodeHeaders order pool (.map headers) = .ok (.ok buf, .map rest) := by
  rw [hbuf] at henc
  simp only [BoltV1Codec.encodeHeaders, hcmd]
  show (do let r ← BoltV1Codec.encodeHeadersCmd pool (some c); pure (r, Headers.map rest)) = _
  rw [henc]
  rfl

theorem encodeHeaders_map_request {c : BoltRequestCommand}
    (hcmd : BoltV1Codec.mapToCmd order headers = .ok (some (.boltRequest c), rest))
    (hclass : 0 ≤ c.classLen.toInt) :
    ∃ buf, BoltV1Codec.encodeHeaders order pool (.map headers) = .ok (.ok buf, .map rest)
      ∧ buf.bytes = requestBytes c := by
  obtain ⟨buf, hbuf⟩ := BoltV1Codec.doEncodeRequestCommand_ok pool c (by omega)
  exact ⟨buf, encodeHeaders_map_written_as order pool hcmd rfl hbuf,
    BoltV1Codec.doEncodeRequestCommand_bytes hbuf⟩

theorem encodeHeaders_map_response {c : BoltResponseCommand}
    (hcmd : BoltV1Codec.mapToCmd order headers = .ok (some (.boltResponse c), rest))
    (hclass : 0 ≤ c.classLen.toInt) :
    ∃ buf, BoltV1Codec.encodeHeaders order pool (.map headers) = .ok (.ok buf, .map rest)
      ∧ buf.bytes = responseBytes c := by
  obtain ⟨buf, hbuf⟩ := BoltV1Codec.doEncodeResponseCommand_ok pool c (by omega)
  exact ⟨buf, encodeHeaders_map_written_as order pool hcmd rfl hbuf,
    BoltV1Codec.doEncodeResponseCommand_bytes hbuf⟩

end Encode

end Mosn.Protocol.SofaRpc
