/-
  Mosn.Stream.SofaRpc.Forgery
  **USER HEADERS AND PROTOCOL FIELDS IN ONE MAP.**

  Between decoding and encoding, the properties of a request and the headers
  of its user share one string map, without a prefix, and the user's entries
  are written last.  So a header that is called like a property IS that
  property for everyone behind it:

    • `noninterference_iff` — two requests that differ in their users' headers
      only stay so exactly when neither user has used such a name.
-/
import Mosn.Stream.SofaRpc.Receive

namespace Mosn.Stream.SofaRpc

open Mosn.Lib Mosn.Types Mosn.Network Mosn.Protocol Mosn.Protocol.SofaRpc
open Mosn.Protocol.Serialize

attribute [local grind cases] Protocol.SofaRpc.BoltV1Codec.RequestOf

/-! ## §1. The way of a request. -/

/-- The names that the proxy reads, sets or takes out of the map of a
request. -/
def forgeable : List GoString := requestProperties ++ proxyHeaders ++ [headerStatus]

theorem requestProperty_names {k : GoString} (hk : k ∈ requestProperties) :
    k ∉ proxyHeaders ∧ k ≠ headerStatus := by
  have hsub : ∀ k ∈ requestProperties, k ∈ boltProperties := by
    simp [requestProperties, boltProperties]
  refine ⟨property_not_proxy (hsub k hk), ?_⟩
  rintro rfl
  exact property_not_internal _ (hsub _ hk) (by simp [internalHeaders])

theorem forgeable_known : ∀ k ∈ forgeable, k ∈ boltProperties ++ internalHeaders := by
  simp [forgeable, requestProperties, proxyHeaders, boltProperties, internalHeaders]

theorem reqID_property : headerReqID ∈ requestProperties := by simp [requestProperties]

theorem cmdCode_property : headerCmdCode ∈ requestProperties := by simp [requestProperties]

/-- A V1 RPC request whose header section carries the user's map `m`: it is
read as `m`, whatever lies behind it. -/
structure RequestWith (b : List UInt8) (m : HeaderMap) : Prop where
  frame : FrameKind.requestV1.At b
  cmdCode : (requestCommandV1 b).cmdCode = rpcRequest
  carries : ∀ spare, deSerializeMap spare (requestCommandV1 b).headerMap ∅ = .ok m

/-- The accidents of one way: iteration orders, the memory behind the header
section, the buffer pool. -/
structure Accidents where
  orderIn : HeaderOrder
  spare : List UInt8
  orderOut : HeaderOrder
  pool : Option SlabPool

/-- The command that `EncodeHeaders` writes for what it is given. -/
def commandOf (order : HeaderOrder) : Headers → Except Panic (Option Command)
  | .map m => (BoltV1Codec.mapToCmd order m).map Prod.fst
  | .cmd c => .ok (some c)
  | .other => .ok none

section Way

variable {ρ τ : Type} (h₁ h₂ : BoltCommandHandler τ)

/-- The request `b` is flattened, delivered on `conn` under `streamID`,
sterilized by the client stream `sender` and encoded: `cmd` is written as
`frame`. -/
def Proxied (a : Accidents) (conn : StreamConnection ρ) (streamID : GoString) (sender : Sender)
    (b : List UInt8) (cmd : Command) (frame : List UInt8) : Prop :=
  ∃ header status conn' before receiver headers isEnd buf left,
    deserializeRequestAllFields a.orderIn a.spare (requestCommandV1 b)
        = .ok { requestCommandV1 b with requestHeader := some header }
    ∧ conn.onDecodeHeader streamID (markEnd (requestCommandV1 b).content header)
        = .ok (status, conn')
    ∧ conn'.callbacks = conn.callbacks ++ before ++ [.receiveHeaders receiver headers isEnd]
    ∧ commandOf a.orderOut (encodeSterilize sender (.map headers)) = .ok (some cmd)
    ∧ (defaultProtocols h₁ h₂).encodeHeaders a.orderOut a.pool
        (encodeSterilize sender (.map headers)) = .ok (.ok buf, left)
    ∧ buf.bytes = frame

end Way

/-- The fields that a frame has besides its header section. -/
structure SameFields (c c' : BoltRequestCommand) : Prop where
  protocol : c.protocol = c'.protocol
  cmdType : c.cmdType = c'.cmdType
  cmdCode : c.cmdCode = c'.cmdCode
  version : c.version = c'.version
  reqID : c.reqID = c'.reqID
  codecPro : c.codecPro = c'.codecPro
  timeout : c.timeout = c'.timeout
  className : c.className = c'.className
  contentLen : c.contentLen = c'.contentLen

/-- Two requests that differ only in their users' headers. -/
structure SameButHeaders (b b' : List UInt8) : Prop
    extends SameFields (requestCommandV1 b) (requestCommandV1 b') where
  classLen : (requestCommandV1 b).classLen = (requestCommandV1 b').classLen
  content : (requestCommandV1 b).content = (requestCommandV1 b').content

/-- The two commands sent on are still requests, differ only in their users'
headers, and each has those of its own user. -/
def Noninterference (cmd₁ cmd₂ : Command) (frame₁ frame₂ : List UInt8) (m₁ m₂ : HeaderMap) : Prop :=
  ∃ c₁ c₂, cmd₁ = .boltRequest c₁ ∧ cmd₂ = .boltRequest c₂
    ∧ frame₁ = requestBytes c₁ ∧ frame₂ = requestBytes c₂ ∧ SameFields c₁ c₂
    ∧ (∀ spare, deSerializeMap spare c₁.headerMap ∅ = .ok m₁)
    ∧ (∀ spare, deSerializeMap spare c₂.headerMap ∅ = .ok m₂)

/-! ## §2. From the frame to the encoder. -/

section In

variable {ρ : Type} {conn : StreamConnection ρ} {streamID : GoString}

/-- The headers as the stream layer has them before it sets its own. -/
def received (conn : StreamConnection ρ) (streamID : GoString) (headers : HeaderMap) : HeaderMap :=
  if (conn.activeStreams.lookup streamID).isSome then headers
  else headers.insert headerReqID streamID

variable {receiver : ρ} {headers m : HeaderMap} {isEnd : Bool} {k : GoString} {b : List UInt8}

theorem last_headers {calls calls' : List (Callback ρ)} {receiver' : ρ}
    {headers' : HeaderMap} {isEnd' : Bool} (h : calls ++ [.receiveHeaders receiver headers isEnd]
      = calls' ++ [.receiveHeaders receiver' headers' isEnd']) : headers' = headers := by
  have hlast := (List.append_inj' h rfl).2
  grind

/-- **What the receiver gets.** -/
theorem delivered_eq {headers₀ : HeaderMap} {status : FilterStatus}
    {conn' : StreamConnection ρ} {before : List (Callback ρ)}
    (hdecode : conn.onDecodeHeader streamID headers₀ = .ok (status, conn'))
    (hcalls : conn'.callbacks
      = conn.callbacks ++ before ++ [.receiveHeaders receiver headers isEnd]) :
    headers = (decodeSterilize streamID (received conn streamID headers₀)).2 := by
  unfold received
  cases hactive : conn.activeStreams.lookup streamID with
  | some stream =>
    rw [StreamConnection.onDecodeHeader_active _ hactive] at hdecode
    cases hdecode
    exact last_headers hcalls
  | none =>
    cases hreq : isSofaRequest headers₀ with
    | false =>
      rw [StreamConnection.onDecodeHeader_unknown hreq hactive] at hdecode
      cases hdecode
      have hlen := congrArg List.length hcalls
      simp only [List.length_append, List.length_singleton] at hlen
      omega
    | true =>
      cases hcb : conn.serverCallbacks with
      | none =>
        rw [StreamConnection.onDecodeHeader_panics hreq hcb hactive] at hdecode
        cases hdecode
      | some serverCallbacks =>
        rw [StreamConnection.onDecodeHeader_new hreq hcb hactive] at hdecode
        cases hdecode
        exact last_headers hcalls

/-- The map that is left when the proxy has taken its own headers out again:
the user's headers `m` over the properties of the request. -/
def sentOn (conn : StreamConnection ρ) (streamID : GoString) (b : List UInt8) (m : HeaderMap) :
    HeaderMap :=
  GoMap.deleteAll
    (decodeSterilize streamID
      (received conn streamID (markEnd (requestCommandV1 b).content (requestHeaders b m)))).2
    proxyHeaders

theorem lookup_sentOn_ite (b : List UInt8) (m : HeaderMap) (hk : k ∉ proxyHeaders) :
    (sentOn conn streamID b m).lookup k
      = if (conn.activeStreams.lookup streamID).isSome then (requestHeaders b m).lookup k
        else if k = headerReqID then some streamID else (requestHeaders b m).lookup k := by
  unfold sentOn received
  rw [GoMap.lookup_deleteAll, if_neg hk, lookup_decodeSterilize _ _ hk]
  split
  · exact lookup_markEnd _ _ hk
  · rw [GoMap.lookup_insert_ite, lookup_markEnd _ _ hk]

theorem lookup_sentOn (hk : k ∉ proxyHeaders) (hne : k ≠ headerReqID) :
    (sentOn conn streamID b m).lookup k = (requestHeaders b m).lookup k := by
  rw [lookup_sentOn_ite b m hk, if_neg hne, ite_self]

theorem lookup_sentOn_reqID (b : List UInt8) (m : HeaderMap) :
    (sentOn conn streamID b m).lookup headerReqID
      = if (conn.activeStreams.lookup streamID).isSome
        then (requestHeaders b m).lookup headerReqID else some streamID := by
  rw [lookup_sentOn_ite b m reqID_not_proxy, if_pos rfl]

theorem lookup_sentOn_proxyHeaders
    (hk : k ∈ proxyHeaders) : (sentOn conn streamID b m).lookup k = none := by
  unfold sentOn
  rw [GoMap.lookup_deleteAll, if_pos hk]

end In

/-- **What a client stream gives to the encoder**: the map without the proxy's
headers and without a status, or, because of a status, no request at all. -/
theorem encodeSterilize_client {sender : Sender} (hclient : sender.direction = .clientStream)
    (headers : HeaderMap) : let left := GoMap.deleteAll headers proxyHeaders
    encodeSterilize sender (.map headers) = .map (left.erase headerStatus)
      ∨ left.lookup headerStatus ≠ none
        ∧ ∃ cmd, encodeSterilize sender (.map headers) = .cmd cmd ∧ ∀ c, cmd ≠ .boltRequest c := by
  intro left
  have hleft : withoutProxyHeaders sender headers = left := by
    unfold withoutProxyHeaders
    rw [hclient, if_neg (by decide)]
  rw [← hleft, ← sterilized_eq]
  rcases sterilized_cases sender headers with hmap | ⟨status, cmd, hsome, hcmd, hbuild⟩
  · exact Or.inl hmap
  · exact Or.inr ⟨hsome, cmd, hcmd, (buildSofaRespMsg_ok hbuild).2.2⟩

/-! ## §3. What comes out. -/

theorem requestHeaders_lookup {b : List UInt8} {m : HeaderMap} {k : GoString}
    (hk : k ∉ requestProperties) : (requestHeaders b m).lookup k = m.lookup k := by
  have hfields : k ∉ (requestFields (requestCommandV1 b)).map Prod.fst := by
    have hsub : ∀ k ∈ (requestFields (requestCommandV1 b)).map Prod.fst,
        k ∈ requestProperties := by
      simp [requestFields, requestProperties, sofaPropertyHeader]
    exact fun hmem => hk (hsub k hmem)
  unfold requestHeaders
  rw [GoMap.lookup_union_orElse, GoMap.lookup_insertAll_of_notMem _ _ _ hfields]
  cases m.lookup k <;> rfl

section Out

variable {ρ τ : Type} {h₁ h₂ : BoltCommandHandler τ} {a : Accidents} {conn : StreamConnection ρ}
  {streamID : GoString} {sender : Sender} {b : List UInt8} {m : HeaderMap}
  {cmd : Command} {frame : List UInt8}

theorem RequestWith.length_header (h : RequestWith b m)
    (order : HeaderOrder) :
    (encodeMap (order m).entries).length < 2 ^ 16 := by
  have hlen : (requestCommandV1 b).headerMap.length = FrameKind.requestV1.layout.headerLen b :=
    (Layout.length_sections h.frame.2).2.1
  have hlt : FrameKind.requestV1.layout.headerLen b < 2 ^ 16 :=
    (uint16_slice b 16).symm.trans_lt (UInt16.toNat_lt _)
  have hle := length_deSerializeMap order (h.carries [])
  omega

/-- **The request under way**: `sentOn` reaches the encoder, without a status
that its user may have given, or a response because of that. -/
theorem Proxied.sent (hb : RequestWith b m) (hclient : sender.direction = .clientStream)
    (h : Proxied h₁ h₂ a conn streamID sender b cmd frame) :
    ∃ given buf left, commandOf a.orderOut given = .ok (some cmd)
      ∧ (defaultProtocols h₁ h₂).encodeHeaders a.orderOut a.pool given = .ok (.ok buf, left)
      ∧ buf.bytes = frame
      ∧ (given = .map ((sentOn conn streamID b m).erase headerStatus)
        ∨ (sentOn conn streamID b m).lookup headerStatus ≠ none ∧ ∀ c, cmd ≠ .boltRequest c) := by
  obtain ⟨header, status, conn', before, receiver, headers, isEnd, buf, left, hfields, hdecode,
    hcalls, hcmd, hencode, hbytes⟩ := h
  have hheader : header = requestHeaders b m := by
    rw [deserializeRequestAllFields_ok a.orderIn (hb.carries a.spare)] at hfields
    simp only [Except.ok.injEq, BoltRequestCommand.mk.injEq, Option.some.injEq, true_and] at hfields
    exact hfields.symm
  have hdelivered := delivered_eq hdecode hcalls
  rw [hheader] at hdelivered
  have hleft : GoMap.deleteAll headers proxyHeaders = sentOn conn streamID b m := by
    rw [hdelivered]
    rfl
  refine ⟨_, buf, left, hcmd, hencode, hbytes, ?_⟩
  have hcases := encodeSterilize_client hclient headers
  rw [hleft] at hcases
  rcases hcases with hmap | ⟨hsome, resp, hresp, hne⟩
  · exact Or.inl hmap
  · rw [hresp] at hcmd
    cases hcmd
    exact Or.inr ⟨hsome, hne⟩

variable {c : BoltRequestCommand} {receiver : Nat → ρ} {id : UInt32}

theorem Proxied.request (hb : RequestWith b m) (hclient : sender.direction = .clientStream)
    (h : Proxied h₁ h₂ a conn streamID sender b (.boltRequest c) frame) :
    ∃ rest, BoltV1Codec.RequestOf a.orderOut ((sentOn conn streamID b m).erase headerStatus) rest c
      ∧ frame = requestBytes c := by
  obtain ⟨given, buf, left, hcmd, hencode, hbytes, rfl | ⟨-, hne⟩⟩ := h.sent hb hclient
  · obtain ⟨cmd, rest, hmap, henc, -, -⟩ := encodeHeaders_map_cmd hencode
    simp only [commandOf, hmap] at hcmd
    cases hcmd
    refine ⟨rest, BoltV1Codec.mapToCmd_requestOf hmap, ?_⟩
    grind [BoltV1Codec.encodeHeadersCmd_bytes]
  · exact absurd rfl (hne c)

/-- **What is left of the user's headers**: all but the forgeable ones. -/
theorem Proxied.rest (hb : RequestWith b m) (hclient : sender.direction = .clientStream)
    (h : Proxied h₁ h₂ a conn streamID sender b (.boltRequest c) frame) (spare : List UInt8) :
    deSerializeMap spare c.headerMap ∅ = .ok (GoMap.deleteAll m forgeable) := by
  obtain ⟨rest, hc, -⟩ := h.request hb hclient
  have hrest : rest = GoMap.deleteAll m forgeable := by
    apply Finmap.ext_lookup
    intro k
    rw [hc.rest_eq, GoMap.lookup_deleteAll, GoMap.lookup_deleteAll, GoMap.lookup_erase_ite]
    by_cases hprop : k ∈ requestProperties
    · rw [if_pos hprop, if_pos (by simp [forgeable, hprop])]
    · rw [if_neg hprop]
      by_cases hproxy : k ∈ proxyHeaders
      · rw [lookup_sentOn_proxyHeaders hproxy, ite_self, if_pos (by simp [forgeable, hproxy])]
      · by_cases hk : k = headerStatus
        · rw [if_pos hk, if_pos (by simp [forgeable, hk])]
        · have hreqID : k ≠ headerReqID := by
            rintro rfl
            exact hprop reqID_property
          rw [if_neg hk, if_neg (by simp [forgeable, hprop, hproxy, hk]),
            lookup_sentOn hproxy hreqID, requestHeaders_lookup hprop]
  have hlen := hb.length_header a.orderOut
  have hle := length_encodeMap_le (a.orderOut m) (a.orderOut rest) (by
    intro k v hk
    rw [hrest, GoMap.lookup_deleteAll] at hk
    split at hk
    · cases hk
    · exact hk)
  rw [hc.headerMap, ← hrest]
  exact deSerializeMap_encodeMap spare rest (a.orderOut rest) (by omega)

theorem requestHeaders_property {k v : GoString} (hm : ∀ k ∈ forgeable, k ∉ m)
    (hk : k ∈ requestProperties) (hmem : (k, v) ∈ requestFields (requestCommandV1 b)) :
    (requestHeaders b m).lookup k = some v :=
  lookup_fields m _ k v (hm k (by simp [forgeable, hk])) (requestFields_nodup _) hmem

/-- **Without forgeable names a request stays a request.** -/
theorem Proxied.isRequest (hb : RequestWith b m) (hclient : sender.direction = .clientStream)
    (hm : ∀ k ∈ forgeable, k ∉ m) (h : Proxied h₁ h₂ a conn streamID sender b cmd frame) :
    ∃ c, cmd = .boltRequest c := by
  obtain ⟨given, buf, left, hcmd, hencode, -, hgiven⟩ := h.sent hb hclient
  have hstatus : (sentOn conn streamID b m).lookup headerStatus = none := by
    rw [lookup_sentOn status_not_proxy (requestProperty_names reqID_property).2.symm,
      requestHeaders_lookup fun hk => (requestProperty_names hk).2 rfl]
    exact Finmap.lookup_eq_none.mpr (hm _ (by simp [forgeable]))
  have hcode : BoltV1Codec.valueOf (sentOn conn streamID b m) headerCmdCode
      = .int16 rpcRequest := by
    have hlookup := requestHeaders_property (b := b) hm cmdCode_property
      (show (headerCmdCode, formatUint64 (requestCommandV1 b).cmdCode.toInt) ∈ _ by
        simp [requestFields, sofaPropertyHeader])
    have hsent : (sentOn conn streamID b m).lookup headerCmdCode = _ :=
      lookup_sentOn (requestProperty_names cmdCode_property).1 (by decide)
    refine (propertyValue_some _ _ _ _ (hsent.trans hlookup)).trans ?_
    rw [hb.cmdCode]
    exact convertPropertyValue_int16 rpcRequest (by decide)
  rcases hgiven with rfl | ⟨hsome, -⟩
  · obtain ⟨cmd', rest, hmap, henc, -, -⟩ := encodeHeaders_map_cmd hencode
    simp only [commandOf, hmap] at hcmd
    cases hcmd
    rw [GoMap.erase_of_lookup_none hstatus] at hmap
    rcases BoltV1Codec.mapToCmd_cases hmap
      with ⟨-, hc, -⟩ | ⟨-, c, hc, -⟩ | ⟨-, c, -, hof⟩ | ⟨-, hc, -⟩
    · cases hc
    · cases hc
      exact ⟨c, rfl⟩
    · -- a response has another command code
      have hcodes := hof.cmdCode.symm.trans hcode
      simp only [GoValue.int16.injEq] at hcodes
      rcases hof.isResponse with heq | heq
      · exact absurd (heq.symm.trans hcodes) (by decide)
      · exact absurd (heq.symm.trans hcodes) (by decide)
    · cases hc
  · exact absurd hstatus hsome

theorem proxied_new (hb : RequestWith b m) (hcb : conn.serverCallbacks = some receiver)
    (hnew : conn.activeStreams.lookup (streamIDConv id) = none)
    (hreq : isSofaRequest (markEnd (requestCommandV1 b).content (requestHeaders b m)) = true)
    {given rest : HeaderMap}
    (hgiven : encodeSterilize sender (.map (deliveredRequest b m id)) = .map given)
    (hcmd : BoltV1Codec.mapToCmd a.orderOut given = .ok (some (.boltRequest c), rest))
    {buf : IoBuffer}
    (hencode : (defaultProtocols h₁ h₂).encodeHeaders a.orderOut a.pool (.map given)
      = .ok (.ok buf, .map rest)) :
    Proxied h₁ h₂ a conn (streamIDConv id) sender b (.boltRequest c) buf.bytes := by
  refine ⟨requestHeaders b m, _, _, [.newStream (receiver conn.detected) _ _],
    receiver conn.detected, deliveredRequest b m id, _, buf, .map rest,
    deserializeRequestAllFields_ok a.orderIn (hb.carries a.spare),
    StreamConnection.onDecodeHeader_new hreq hcb hnew, rfl, ?_, ?_, rfl⟩
  · rw [hgiven]
    simp only [commandOf, hcmd]
    rfl
  · rw [hgiven]
    exact hencode

theorem ForwardableRequest.proxied {l : GoMap.Listing m} (h : ForwardableRequest b m l)
    (hb : RequestWith b m) (hclient : sender.direction = .clientStream)
    (hcb : conn.serverCallbacks = some receiver)
    (hnew : conn.activeStreams.lookup (streamIDConv id) = none) :
    Proxied h₁ h₂ a conn (streamIDConv id) sender b
      (.boltRequest (ForwardableRequest.forwarded b m a.orderOut id))
      (requestBytes (ForwardableRequest.forwarded b m a.orderOut id)) := by
  obtain ⟨buf, hencode, hbytes⟩ := h.encodes h₁ h₂ a.orderOut a.pool id sender hclient
  have hgiven := h.encodeSterilize id sender hclient
  rw [hgiven] at hencode
  rw [← hbytes]
  exact proxied_new hb hcb hnew (h.isSofaRequest _) hgiven (h.mapToCmd a.orderOut id) hencode

end Out

/-! ## §4. Two requests. -/

section TwoRuns

variable {ρ τ : Type} {h₁ h₂ : BoltCommandHandler τ} {a₁ a₂ : Accidents}
  {conn : StreamConnection ρ} {streamID : GoString} {sender : Sender} {b₁ b₂ : List UInt8}
  {m₁ m₂ : HeaderMap} {cmd₁ cmd₂ : Command} {frame₁ frame₂ : List UInt8}

theorem SameButHeaders.fields (h : SameButHeaders b₁ b₂) {k : GoString} (hk : k ≠ headerHeaderLen) :
    (GoMap.insertAll ∅ (requestFields (requestCommandV1 b₁))).lookup k
      = (GoMap.insertAll ∅ (requestFields (requestCommandV1 b₂))).lookup k := by
  simp only [requestFields, sofaPropertyHeader, GoMap.insertAll, List.foldl_cons, List.foldl_nil,
    GoMap.lookup_insert_ite, hk, ↓reduceIte, h.protocol, h.cmdType, h.cmdCode, h.version, h.reqID,
    h.codecPro, h.timeout, h.className, h.contentLen, h.classLen]

theorem SameButHeaders.sentOn (h : SameButHeaders b₁ b₂) (hm₁ : ∀ k ∈ forgeable, k ∉ m₁)
    (hm₂ : ∀ k ∈ forgeable, k ∉ m₂) {k : GoString} (hk : k ∈ requestProperties)
    (hne : k ≠ headerHeaderLen) : (Stream.SofaRpc.sentOn conn streamID b₁ m₁).lookup k
      = (Stream.SofaRpc.sentOn conn streamID b₂ m₂).lookup k := by
  have hforge : k ∈ forgeable := by simp [forgeable, hk]
  have hproxy : k ∉ proxyHeaders := (requestProperty_names hk).1
  have hsame : (requestHeaders b₁ m₁).lookup k = (requestHeaders b₂ m₂).lookup k := by
    unfold requestHeaders
    rw [GoMap.lookup_union_orElse, GoMap.lookup_union_orElse,
      Finmap.lookup_eq_none.mpr (hm₁ k hforge), Finmap.lookup_eq_none.mpr (hm₂ k hforge),
      h.fields hne]
  by_cases hid : k = headerReqID
  · subst hid
    rw [lookup_sentOn_reqID, lookup_sentOn_reqID, hsame]
  · rw [lookup_sentOn hproxy hid, lookup_sentOn hproxy hid, hsame]

theorem serialize_className (order order' : HeaderOrder) (m : HeaderMap) :
    serialize order (BoltV1Codec.valueOf m headerClassName)
      = serialize order' (BoltV1Codec.valueOf m headerClassName) := by
  unfold BoltV1Codec.valueOf propertyValue
  cases m.lookup headerClassName with
  | none => rfl
  | some v => rfl

/-- **Maps with the same properties stand for the same request**, header
section aside. -/
theorem sameFields_of_requestOf {order₁ order₂ : HeaderOrder}
    {given₁ given₂ rest₁ rest₂ : HeaderMap} {c₁ c₂ : BoltRequestCommand}
    (hc₁ : BoltV1Codec.RequestOf order₁ given₁ rest₁ c₁)
    (hc₂ : BoltV1Codec.RequestOf order₂ given₂ rest₂ c₂)
    (h : ∀ k ∈ requestProperties, k ≠ headerHeaderLen → given₁.lookup k = given₂.lookup k) :
    SameFields c₁ c₂ := by
  have hvalue : ∀ k ∈ requestProperties, k ≠ headerHeaderLen →
      BoltV1Codec.valueOf given₁ k
        = BoltV1Codec.valueOf given₂ k := by
    intro k hk hne
    unfold BoltV1Codec.valueOf propertyValue
    rw [h k hk hne]
  have hprops : ∀ k ∈ [headerProtocolCode, headerCmdType, headerCmdCode, headerVersion, headerReqID,
      headerCodec, headerTimeout, headerContentLen, headerClassName],
      k ∈ requestProperties ∧ k ≠ headerHeaderLen := by decide +kernel
  simp only [List.forall_mem_cons] at hprops
  obtain ⟨h1, h2, h3, h4, h5, h6, h7, h8, h9, -⟩ := hprops
  constructor
  · exact GoValue.uint8.inj (hc₁.protocol.symm.trans ((hvalue _ h1.1 h1.2).trans hc₂.protocol))
  · exact GoValue.uint8.inj (hc₁.cmdType.symm.trans ((hvalue _ h2.1 h2.2).trans hc₂.cmdType))
  · exact GoValue.int16.inj (hc₁.cmdCode.symm.trans ((hvalue _ h3.1 h3.2).trans hc₂.cmdCode))
  · exact GoValue.uint8.inj (hc₁.version.symm.trans ((hvalue _ h4.1 h4.2).trans hc₂.version))
  · exact GoValue.uint32.inj (hc₁.reqID.symm.trans ((hvalue _ h5.1 h5.2).trans hc₂.reqID))
  · exact GoValue.uint8.inj (hc₁.codecPro.symm.trans ((hvalue _ h6.1 h6.2).trans hc₂.codecPro))
  · exact GoValue.int.inj (hc₁.timeout.symm.trans ((hvalue _ h7.1 h7.2).trans hc₂.timeout))
  · grind [serialize_className]
  · grind

/-- **When user headers do not interfere with protocol fields.**  For two V1
RPC requests that differ in their users' headers only and are both proxied
under one stream id: the frames sent on differ in their users' headers only,
and each has those of its own user, exactly when neither user has used a name
that means something to the proxy. -/
theorem noninterference_iff (hb₁ : RequestWith b₁ m₁) (hb₂ : RequestWith b₂ m₂)
    (hsame : SameButHeaders b₁ b₂) (hclient : sender.direction = .clientStream)
    (hp₁ : Proxied h₁ h₂ a₁ conn streamID sender b₁ cmd₁ frame₁)
    (hp₂ : Proxied h₁ h₂ a₂ conn streamID sender b₂ cmd₂ frame₂) :
    Noninterference cmd₁ cmd₂ frame₁ frame₂ m₁ m₂
      ↔ (∀ k ∈ forgeable, k ∉ m₁) ∧ ∀ k ∈ forgeable, k ∉ m₂ := by
  constructor
  · rintro ⟨c₁, c₂, rfl, rfl, -, -, -, hm₁, hm₂⟩
    have hrest₁ := (hp₁.rest hb₁ hclient []).symm.trans (hm₁ [])
    have hrest₂ := (hp₂.rest hb₂ hclient []).symm.trans (hm₂ [])
    grind [GoMap.deleteAll_eq_self_iff]
  · rintro ⟨hm₁, hm₂⟩
    obtain ⟨c₁, rfl⟩ := hp₁.isRequest hb₁ hclient hm₁
    obtain ⟨c₂, rfl⟩ := hp₂.isRequest hb₂ hclient hm₂
    obtain ⟨rest₁, hc₁, hframe₁⟩ := hp₁.request hb₁ hclient
    obtain ⟨rest₂, hc₂, hframe₂⟩ := hp₂.request hb₂ hclient
    refine ⟨c₁, c₂, rfl, rfl, hframe₁, hframe₂, sameFields_of_requestOf hc₁ hc₂ ?_, ?_, ?_⟩
    · intro k hk hne
      have hstatus := (requestProperty_names hk).2
      rw [Finmap.lookup_erase_ne hstatus, Finmap.lookup_erase_ne hstatus]
      exact hsame.sentOn hm₁ hm₂ hk hne
    · intro spare
      rw [hp₁.rest hb₁ hclient spare, (GoMap.deleteAll_eq_self_iff m₁ forgeable).mpr hm₁]
    · intro spare
      rw [hp₂.rest hb₂ hclient spare, (GoMap.deleteAll_eq_self_iff m₂ forgeable).mpr hm₂]

end TwoRuns

/-! ## §5. Names of seven letters. -/

/-- Class `a`, one user header of that name with the value `5`, one byte of
content. -/
def userHeaderRequest (name : GoString) : List UInt8 :=
  [1, 1, 0, 1, 1, 0, 0, 0, 7, 1, 0, 0, 0, 100, 0, 1, 0, 16, 0, 0, 0, 1, 97, 0, 0, 0, 7] ++ name
    ++ [0, 0, 0, 1, 53, 5]

def userHeader (name : GoString) : HeaderMap := GoMap.insertAll ∅ [(name, [53])]

def userHeaderListing (name : GoString) : GoMap.Listing (userHeader name) :=
  GoMap.listingOf [(name, [53])] (List.nodup_singleton name)

variable {name : GoString}

theorem userHeader_plain {names : List GoString} (hname : name ∉ names) :
    ∀ k ∈ names, k ∉ userHeader name := by
  intro k hk hmem
  have hkey : k ∈ [name] := ((userHeaderListing name).mem_keys k).mpr hmem
  rw [List.mem_singleton.mp hkey] at hk
  exact hname hk

theorem seven_letters (hname : name.length = 7) :
    ∃ a b c d e f g, name = [a, b, c, d, e, f, g] := by
  match name, hname with
  | [a, b, c, d, e, f, g], _ => exact ⟨a, b, c, d, e, f, g, rfl⟩

theorem userHeaderRequest_with (hname : name.length = 7) :
    RequestWith (userHeaderRequest name) (userHeader name)
      ∧ (requestCommandV1 (userHeaderRequest name)).headerMap
        = encodeMap (userHeaderListing name).entries := by
  obtain ⟨a, b, c, d, e, f, g, rfl⟩ := seven_letters hname
  have hheader : (requestCommandV1 (userHeaderRequest [a, b, c, d, e, f, g])).headerMap
      = encodeMap (userHeaderListing [a, b, c, d, e, f, g]).entries := by
    have hseven : BigEndian.put 4 7 = [0, 0, 0, 7] := by decide
    have hone : BigEndian.put 4 1 = [0, 0, 0, 1] := by decide
    show _ = BigEndian.put 4 7 ++ [a, b, c, d, e, f, g] ++ (BigEndian.put 4 1 ++ [53]) ++ []
    rw [hseven, hone]
    rfl
  have hat : FrameKind.requestV1.At (userHeaderRequest [a, b, c, d, e, f, g]) :=
    ⟨rfl, Nat.le_refl 40⟩
  refine ⟨⟨hat, rfl, fun spare => ?_⟩, hheader⟩
  rw [hheader]
  exact deSerializeMap_encodeMap spare _ _ (show 16 < 2 ^ 32 by decide)

theorem userHeaderRequest_sameButHeaders {name' : GoString} (hname : name.length = 7)
    (hname' : name'.length = 7) :
    SameButHeaders (userHeaderRequest name) (userHeaderRequest name') := by
  have hcontent : ∀ {name : GoString}, name.length = 7 →
      (requestCommandV1 (userHeaderRequest name)).content = [5] := by
    intro name hname
    obtain ⟨a, b, c, d, e, f, g, rfl⟩ := seven_letters hname
    rfl
  exact ⟨⟨rfl, rfl, rfl, rfl, rfl, rfl, rfl, rfl, rfl⟩, rfl,
    (hcontent hname).trans (hcontent hname').symm⟩

theorem userHeaderRequest_forwardable (hname : name.length = 7)
    (hplain : name ∉ boltProperties ++ internalHeaders) :
    ForwardableRequest (userHeaderRequest name) (userHeader name) (userHeaderListing name) where
  frame := (userHeaderRequest_with hname).1.frame
  cmdType := rfl
  cmdCode := rfl
  timeout_lt := of_decide_eq_true rfl
  classLen_lt := of_decide_eq_true rfl
  headerLen_lt := of_decide_eq_true rfl
  contentLen_lt := of_decide_eq_true rfl
  header_eq := (userHeaderRequest_with hname).2
  plain := userHeader_plain hplain

/-- From a new server connection to a client stream. -/
def NewlyProxied (name : GoString) (cmd : Command) (frame : List UInt8) : Prop :=
  Proxied (newBoltCommandHandler (σ := StreamConnection Nat) StreamConnection.filter
      GoMap.someOrder [])
    (newBoltCommandHandlerV2 StreamConnection.filter GoMap.someOrder [])
    ⟨GoMap.someOrder, [], GoMap.someOrder, none⟩ (newStreamConnection (some (fun n => n)))
    (streamIDConv 9) ⟨streamIDConv 9, streamIDConv 9, .clientStream, none, none⟩
    (userHeaderRequest name) cmd frame

theorem newlyProxied_plain (hname : name.length = 7)
    (hplain : name ∉ boltProperties ++ internalHeaders) :
    ∃ c frame, NewlyProxied name (.boltRequest c) frame
      ∧ c.timeout = (requestCommandV1 (userHeaderRequest name)).timeout :=
  ⟨_, _, (userHeaderRequest_forwardable hname hplain).proxied (userHeaderRequest_with hname).1 rfl
    rfl rfl, rfl⟩

theorem traceid_plain : str "traceid" ∉ boltProperties ++ internalHeaders := by decide +kernel

theorem userkey_plain : str "userkey" ∉ boltProperties ++ internalHeaders := by decide +kernel

theorem noninterference_traceid_userkey :
    ∃ cmd₁ cmd₂ frame₁ frame₂, NewlyProxied (str "traceid") cmd₁ frame₁
      ∧ NewlyProxied (str "userkey") cmd₂ frame₂
      ∧ Noninterference cmd₁ cmd₂ frame₁ frame₂ (userHeader (str "traceid"))
        (userHeader (str "userkey")) := by
  obtain ⟨c₁, frame₁, htraceid, -⟩ := newlyProxied_plain
    (show (str "traceid").length = 7 by decide) traceid_plain
  obtain ⟨c₂, frame₂, huserkey, -⟩ := newlyProxied_plain
    (show (str "userkey").length = 7 by decide) userkey_plain
  exact ⟨_, _, _, _, htraceid, huserkey,
    (noninterference_iff (userHeaderRequest_with (by decide)).1
      (userHeaderRequest_with (by decide)).1
      (userHeaderRequest_sameButHeaders (by decide) (by decide)) rfl htraceid huserkey).mpr
      ⟨userHeader_plain fun h => traceid_plain (forgeable_known _ h),
        userHeader_plain fun h => userkey_plain (forgeable_known _ h)⟩⟩

/-- The map of the request with a header `timeout`, as it reaches the
encoder. -/
def forgedHeaders : HeaderMap :=
  GoMap.deleteAll
    (deliveredRequest (userHeaderRequest (str "timeout")) (userHeader (str "timeout")) 9)
    proxyHeaders

/-- The command made of it. -/
def forgedCommand : BoltRequestCommand :=
  { requestCommandV1 (userHeaderRequest (str "timeout")) with reqID := 9, timeout := 5 }

theorem mapToCmd_forged (order : HeaderOrder) :
    ∃ c rest, BoltV1Codec.mapToCmd order forgedHeaders = .ok (some (.boltRequest c), rest)
      ∧ 0 ≤ c.classLen.toInt ∧ c.timeout = 5 := by
  have hlen : 10 ≤ forgedHeaders.len := by decide +kernel
  have hclass : 0 ≤ forgedCommand.classLen.toInt := by decide +kernel
  -- one evaluation of the closed map for all of its properties
  have hvalues : ∀ e ∈ BoltV1Codec.requestValues forgedCommand,
      BoltV1Codec.valueOf forgedHeaders e.1 = e.2 := by
    decide +kernel
  exact ⟨_, _, BoltV1Codec.mapToCmd_request order forgedCommand hlen hvalues, hclass, rfl⟩

theorem newlyProxied_forged :
    ∃ c frame, NewlyProxied (str "timeout") (.boltRequest c) frame ∧ c.timeout = 5 := by
  have hb := (userHeaderRequest_with (show (str "timeout").length = 7 by decide)).1
  have hreq : isSofaRequest (markEnd (requestCommandV1 (userHeaderRequest (str "timeout"))).content
      (requestHeaders (userHeaderRequest (str "timeout")) (userHeader (str "timeout"))))
      = true := by decide +kernel
  have hstatus : (deliveredRequest (userHeaderRequest (str "timeout")) (userHeader (str "timeout"))
      9).lookup headerStatus = none := by decide +kernel
  have hgiven : encodeSterilize ⟨streamIDConv 9, streamIDConv 9, .clientStream, none, none⟩
      (.map (deliveredRequest (userHeaderRequest (str "timeout")) (userHeader (str "timeout")) 9))
      = .map forgedHeaders := encodeSterilize_none _ hstatus
  obtain ⟨c, rest, hcmd, hclass, hfive⟩ := mapToCmd_forged GoMap.someOrder
  obtain ⟨buf, hencode, -⟩ := encodeHeaders_map_request GoMap.someOrder none hcmd hclass
  rw [← encodeHeaders_map_v1 (newBoltCommandHandler (σ := StreamConnection Nat)
      StreamConnection.filter GoMap.someOrder [])
    (newBoltCommandHandlerV2 StreamConnection.filter GoMap.someOrder []) GoMap.someOrder none
    forgedHeaders (str "1") (by decide +kernel) (by decide +kernel)] at hencode
  refine ⟨c, buf.bytes, ?_, hfive⟩
  unfold NewlyProxied
  have hnew : (newStreamConnection (some (fun n : Nat => n))).activeStreams.lookup (streamIDConv 9)
      = none := rfl
  exact proxied_new (a := ⟨GoMap.someOrder, [], GoMap.someOrder, none⟩) hb rfl hnew hreq hgiven hcmd
    hencode

/-- **A forged timeout.**  The two requests differ in the name of one user
header only; because the second is called `timeout`, its frame is sent on with
the timeout 5 instead of 100, and without the header. -/
theorem timeout_forged : ∃ cmd₁ cmd₂ frame₁ frame₂,
      RequestWith (userHeaderRequest (str "traceid")) (userHeader (str "traceid"))
      ∧ RequestWith (userHeaderRequest (str "timeout")) (userHeader (str "timeout"))
      ∧ SameButHeaders (userHeaderRequest (str "traceid")) (userHeaderRequest (str "timeout"))
      ∧ (requestCommandV1 (userHeaderRequest (str "traceid"))).headerLen
        = (requestCommandV1 (userHeaderRequest (str "timeout"))).headerLen
      ∧ NewlyProxied (str "traceid") cmd₁ frame₁ ∧ NewlyProxied (str "timeout") cmd₂ frame₂
      ∧ ¬ Noninterference cmd₁ cmd₂ frame₁ frame₂ (userHeader (str "traceid"))
        (userHeader (str "timeout")) := by
  obtain ⟨c₁, frame₁, htraceid, hhundred⟩ := newlyProxied_plain
    (show (str "traceid").length = 7 by decide) traceid_plain
  obtain ⟨c₂, frame₂, hforged, hfive⟩ := newlyProxied_forged
  refine ⟨_, _, frame₁, frame₂, (userHeaderRequest_with (by decide)).1,
    (userHeaderRequest_with (by decide)).1,
    userHeaderRequest_sameButHeaders (by decide) (by decide), by decide, htraceid, hforged, ?_⟩
  rintro ⟨c₁', c₂', heq₁, heq₂, -, -, hsame, -⟩
  cases heq₁
  cases heq₂
  have htimeout := hsame.timeout
  rw [hhundred, hfive] at htimeout
  have hne : (requestCommandV1 (userHeaderRequest (str "traceid"))).timeout ≠ 5 := by decide
  exact hne htimeout

end Mosn.Stream.SofaRpc
