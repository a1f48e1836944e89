/-
  Mosn.Stream.SofaRpc.Forward
  **A COMMAND CROSSES THE PROXY UNCHANGED.**

  A request goes through five representations: frame, command, string map
  (with internal keys set on the way in and taken out on the way out),
  command, frame.  A response goes the same way back.

    • `request_forwarded` — the frame sent upstream decodes to the
      command received, under the stream id,
    • `response_returned` — the frame sent downstream decodes to the
      command received, under the request id the client chose.
-/
import Mosn.Stream.SofaRpc.Send

namespace Mosn.Stream.SofaRpc

open Mosn.Lib Mosn.Types Mosn.Network Mosn.Protocol Mosn.Protocol.SofaRpc
open Mosn.Protocol.Serialize

/-! ## §1. Only the request id changes. -/

variable {k : GoString} {fields : List (GoString × GoString)} {m : HeaderMap}

theorem lookup_markEnd (content : List UInt8) (h : HeaderMap)
    (hk : k ∉ proxyHeaders) : (markEnd content h).lookup k = h.lookup k := by
  simp only [proxyHeaders, List.mem_cons, not_or] at hk
  unfold markEnd
  split
  · rw [Finmap.lookup_insert_of_ne _ hk.2.2.2.1]
  · rfl

theorem formatUint64_uint32 (v : UInt32) : formatUint64 v.toNat = streamIDConv v :=
  formatUint64_natCast _ (Nat.lt_trans v.toNat_lt (by decide))

theorem lookup_requestFields_reqID (c : BoltRequestCommand) (id : UInt32) (k : GoString) :
    (GoMap.insertAll ∅ (requestFields { c with reqID := id })).lookup k
      = if k = headerReqID then some (streamIDConv id)
        else (GoMap.insertAll ∅ (requestFields c)).lookup k := by
  split
  next hk =>
      subst hk
      rw [← formatUint64_uint32]
      exact GoMap.lookup_insertAll_of_mem _ _ _ _ (requestFields_nodup _)
        (by simp [requestFields, sofaPropertyHeader])
  next hk =>
      simp only [requestFields, sofaPropertyHeader, GoMap.insertAll, List.foldl_cons,
        List.foldl_nil, GoMap.lookup_insert_ite, hk, ↓reduceIte]

theorem lookup_responseFields_reqID (c : BoltResponseCommand) (id : UInt32) (k : GoString) :
    (GoMap.insertAll ∅ (responseFields { c with reqID := id })).lookup k
      = if k = headerReqID then some (streamIDConv id)
        else (GoMap.insertAll ∅ (responseFields c)).lookup k := by
  split
  next hk =>
      subst hk
      rw [← formatUint64_uint32]
      exact GoMap.lookup_insertAll_of_mem _ _ _ _ (responseFields_nodup _)
        (by simp [responseFields, sofaPropertyHeader])
  next hk =>
      simp only [responseFields, sofaPropertyHeader, GoMap.insertAll, List.foldl_cons,
        List.foldl_nil, GoMap.lookup_insert_ite, hk, ↓reduceIte]

theorem internal_not_field (hkeys : ∀ e ∈ fields, e.1 ∈ boltProperties) (hk : k ∈ internalHeaders) :
    k ∉ fields.map Prod.fst := by
  intro hmem
  obtain ⟨e, he, rfl⟩ := List.mem_map.mp hmem
  exact property_not_internal e.1 (hkeys e he) hk

/-- A map `h` that differs from a command's map at most in internal keys, but
for its request id, is that command's map once the internal keys are gone. -/
theorem deleteAll_proxyHeaders {h : HeaderMap} {fields' : List (GoString × GoString)}
    {id : UInt32} (hm : PlainHeaders m) (hfields : ∀ k, (GoMap.insertAll ∅ fields').lookup k
      = if k = headerReqID then some (streamIDConv id) else (GoMap.insertAll ∅ fields).lookup k)
    (hkeys : ∀ e ∈ fields, e.1 ∈ boltProperties) (hh : ∀ k, k ∉ proxyHeaders → h.lookup k
      = if k = headerReqID then some (streamIDConv id)
        else (m ∪ GoMap.insertAll ∅ fields).lookup k) :
    GoMap.deleteAll h proxyHeaders = m ∪ GoMap.insertAll ∅ fields' := by
  have hreqID : m.lookup headerReqID = none := hm.lookup (by simp [boltProperties])
  apply Finmap.ext_lookup
  intro k
  rw [GoMap.lookup_deleteAll, GoMap.lookup_union_orElse, hfields]
  split
  next hk =>
      -- an internal key: neither the user nor the command has it
      have hint := proxyHeaders_internal k hk
      have hne : k ≠ headerReqID := by
        rintro rfl
        exact reqID_not_proxy hk
      have hfield := internal_not_field hkeys hint
      rw [hm.lookup (List.mem_append_right _ hint), if_neg hne,
        GoMap.lookup_insertAll_of_notMem k fields ∅ hfield]
      rfl
  next hk =>
      grind [GoMap.lookup_union_orElse]

theorem lookup_headerStatus (hm : PlainHeaders m) {content : List UInt8}
    (hkeys : ∀ e ∈ fields, e.1 ∈ boltProperties) :
    (markEnd content (m ∪ GoMap.insertAll ∅ fields)).lookup headerStatus = none := by
  have hinternal : headerStatus ∈ internalHeaders := by simp [internalHeaders]
  rw [lookup_markEnd _ _ status_not_proxy, GoMap.lookup_union_orElse,
    hm.lookup (List.mem_append_right _ hinternal),
    GoMap.lookup_insertAll_of_notMem _ _ _ (internal_not_field hkeys hinternal)]
  rfl

theorem lookup_markEnd_fields (hm : ∀ k ∈ boltProperties, k ∉ m)
    (c : BoltRequestCommand) (content : List UInt8) {v : GoString} (hk : k ∈ boltProperties)
    (hmem : (k, v) ∈ requestFields c) :
    (markEnd content (m ∪ GoMap.insertAll ∅ (requestFields c))).lookup k = some v := by
  rw [lookup_markEnd _ _ (property_not_proxy hk)]
  exact lookup_fields m _ k v (hm k hk) (requestFields_nodup _) hmem

theorem isSofaRequest_fields (hm : ∀ k ∈ boltProperties, k ∉ m) (b content : List UInt8) :
    isSofaRequest (markEnd content
      (m ∪ GoMap.insertAll ∅ (requestFields (requestCommandV1 b))))
        = decide (b.getD 1 0 = request) := by
  have hproto : (headerProtocolCode, formatUint64 protocolCodeV1.toNat)
      ∈ requestFields (requestCommandV1 b) := by
    simp [requestFields, sofaPropertyHeader, requestCommandV1]
  have htype : (headerCmdType, formatUint64 (b.getD 1 0).toNat)
      ∈ requestFields (requestCommandV1 b) := by
    simp [requestFields, sofaPropertyHeader, requestCommandV1]
  simp only [isSofaRequest, sofaPropertyHeader,
    lookup_markEnd_fields hm _ content (by simp [boltProperties]) hproto,
    lookup_markEnd_fields hm _ content (by simp [boltProperties]) htype, Option.getD_some,
    convertPropertyValue_uint8, true_or, ↓reduceIte, GoValue.uint8.injEq]

/-- **A request after all rewriting** is the request under the stream id. -/
theorem sterilized_request (hm : PlainHeaders m) (c : BoltRequestCommand) (id : UInt32) :
    GoMap.deleteAll
        (decodeSterilize (streamIDConv id)
          ((markEnd c.content (m ∪ GoMap.insertAll ∅ (requestFields c))).insert headerReqID
            (streamIDConv id))).2 proxyHeaders
      = m ∪ GoMap.insertAll ∅ (requestFields { c with reqID := id }) := by
  apply deleteAll_proxyHeaders hm (lookup_requestFields_reqID c id) (requestFields_keys c)
  intro k hk
  rw [lookup_decodeSterilize _ _ hk, GoMap.lookup_insert_ite, lookup_markEnd _ _ hk]

/-- **A response after all rewriting** is the response under the request id
of the server stream. -/
theorem sterilized_response (hm : PlainHeaders m) (c : BoltResponseCommand)
    (streamID : GoString) (id : UInt32) : GoMap.deleteAll
        ((decodeSterilize streamID
          (markEnd c.content (m ∪ GoMap.insertAll ∅ (responseFields c)))).2.insert headerReqID
            (streamIDConv id)) proxyHeaders
      = m ∪ GoMap.insertAll ∅ (responseFields { c with reqID := id }) := by
  apply deleteAll_proxyHeaders hm (lookup_responseFields_reqID c id) (responseFields_keys c)
  intro k hk
  rw [GoMap.lookup_insert_ite, lookup_decodeSterilize _ _ hk, lookup_markEnd _ _ hk]

theorem deSerializeMap_section {l : GoMap.Listing m} {header : List UInt8}
    (hheader : header = encodeMap l.entries) (hlen : (encodeMap l.entries).length < 2 ^ 15)
    (l' : GoMap.Listing m) (spare : List UInt8) : deSerializeMap spare header ∅ = .ok m
      ∧ deSerializeMap spare (encodeMap l'.entries) ∅ = .ok m := by
  have hperm := length_encodeMap_perm (l'.perm l)
  rw [hheader]
  exact ⟨deSerializeMap_encodeMap spare m l (by omega),
    deSerializeMap_encodeMap spare m l' (by omega)⟩

/-! ## §2. Requests. -/

/-- A request whose frame can be forwarded: the lengths fit the types they
pass through, and the header section is the encoding of plain headers `m`. -/
structure ForwardableRequest (b : List UInt8) (m : HeaderMap) (l : GoMap.Listing m) : Prop where
  frame : FrameKind.requestV1.At b
  cmdType : b.getD 1 0 = request
  cmdCode : (uint16 (slice b 2 4)).toInt16 = rpcRequest
  timeout_lt : (uint32 (slice b 10 14)).toNat < 2 ^ 31
  classLen_lt : FrameKind.requestV1.layout.classLen b < 2 ^ 15
  headerLen_lt : FrameKind.requestV1.layout.headerLen b < 2 ^ 15
  contentLen_lt : FrameKind.requestV1.layout.contentLen b < 2 ^ 31
  header_eq : (FrameKind.requestV1.layout.sections b).header = encodeMap l.entries
  plain : PlainHeaders m

namespace ForwardableRequest

variable {b : List UInt8} {m : HeaderMap} {l : GoMap.Listing m}

theorem length_header (h : ForwardableRequest b m l) : (encodeMap l.entries).length < 2 ^ 15 := by
  rw [← h.header_eq, (Layout.length_sections h.frame.2).2.1]
  exact h.headerLen_lt

theorem deserialize (h : ForwardableRequest b m l) (order : HeaderOrder)
    (spare : List UInt8) : deserializeRequestAllFields order spare (requestCommandV1 b)
      = .ok { requestCommandV1 b with
          requestHeader := some (m ∪ GoMap.insertAll ∅ (requestFields (requestCommandV1 b))) } := by
  exact deserializeRequestAllFields_ok order
    (deSerializeMap_section h.header_eq h.length_header l spare).1

theorem isSofaRequest (h : ForwardableRequest b m l) (content : List UInt8) :
    isSofaRequest (markEnd content
      (m ∪ GoMap.insertAll ∅ (requestFields (requestCommandV1 b)))) = true := by
  have hplain : ∀ k ∈ boltProperties, k ∉ m :=
    fun k hk => h.plain k (List.mem_append_left _ hk)
  exact (isSofaRequest_fields hplain b content).trans (decide_eq_true h.cmdType)

/-- The command sent on: another request id, the header section written in
another order. -/
def forwarded (b : List UInt8) (m : HeaderMap) (order : HeaderOrder)
    (id : UInt32) : BoltRequestCommand :=
  { requestCommandV1 b with
    reqID := id
    headerMap := encodeMap (order m).entries
    content := [] }

theorem mapToCmd (h : ForwardableRequest b m l) (order : HeaderOrder)
    (id : UInt32) : BoltV1Codec.mapToCmd order
        (m ∪ GoMap.insertAll ∅ (requestFields { requestCommandV1 b with reqID := id }))
      = .ok (some (.boltRequest (forwarded b m order id)), m) := by
  have hsub : ∀ k ∈ requestProperties, k ∈ boltProperties ++ internalHeaders := by
    simp [requestProperties, boltProperties]
  refine mapToCmd_requestFields order m { requestCommandV1 b with reqID := id }
    (fun k hk => h.plain k (hsub k hk)) h.cmdCode ?_ ?_ ⟨_, rfl, h.timeout_lt⟩ ⟨_, rfl, ?_⟩
  · exact toInt_toInt16_nonneg ((uint16_slice b 14).trans_lt h.classLen_lt)
  · exact toInt_toInt16_nonneg ((uint16_slice b 16).trans_lt h.headerLen_lt)
  · exact (uint32_slice b 18).trans_lt h.contentLen_lt

theorem sized (h : ForwardableRequest b m l) (order : HeaderOrder)
    (id : UInt32) : (forwarded b m order id).Sized (requestCommandV1 b).content := by
  obtain ⟨hcl, -, hct⟩ := Layout.length_sections h.frame.2
  have hperm := length_encodeMap_perm ((order m).perm l)
  have hheader := h.length_header
  have hcontent := h.contentLen_lt
  have hlen32 := uint32_slice b 18
  constructor
  · show (uint16 (slice b 14 16)).toInt16.toInt
      = ((FrameKind.requestV1.layout.sections b).className.length : Int)
    rw [toInt_toInt16_of_lt ((uint16_slice b 14).trans_lt h.classLen_lt), hcl]
    exact congrArg _ (uint16_slice b 14)
  · show (encodeMap (order m).entries).length < 2 ^ 16
    omega
  · show ((uint32 (slice b 18 22)).toNat : Int)
      = ((FrameKind.requestV1.layout.sections b).content.length : Int)
    rw [hct]
    exact congrArg _ hlen32
  · show (FrameKind.requestV1.layout.sections b).content.length < 2 ^ 32
    omega

end ForwardableRequest

/-- `c'` is `c` under the request id `id`: the same header map `m`, possibly
written in another order, and every other field of the frame equal. -/
structure SameRequest (c c' : BoltRequestCommand) (m : HeaderMap) (id : UInt32) : Prop where
  cmdType : c'.cmdType = c.cmdType
  cmdCode : c'.cmdCode = c.cmdCode
  version : c'.version = c.version
  codecPro : c'.codecPro = c.codecPro
  timeout : c'.timeout = c.timeout
  className : c'.className = c.className
  content : c'.content = c.content
  headers : ∀ spare, deSerializeMap spare c.headerMap ∅ = .ok m
    ∧ deSerializeMap spare c'.headerMap ∅ = .ok m
  reqID : c'.reqID = id

theorem ForwardableRequest.decode_forwarded {b : List UInt8} {m : HeaderMap}
    {l : GoMap.Listing m} (h : ForwardableRequest b m l)
    (order : HeaderOrder) (id : UInt32) :
    let frame := requestBytes (forwarded b m order id) ++ (requestCommandV1 b).content
    FrameKind.requestV1.At frame
      ∧ SameRequest (requestCommandV1 b) (requestCommandV1 frame) m id := by
  intro frame
  obtain ⟨hat, hcmd⟩ := requestCommandV1_requestBytes (forwarded b m order id)
    (requestCommandV1 b).content rfl (Or.inl h.cmdType) (h.sized order id)
  refine ⟨hat, ?_⟩
  show SameRequest (requestCommandV1 b)
    (requestCommandV1 (requestBytes (forwarded b m order id) ++ (requestCommandV1 b).content)) m id
  rw [hcmd]
  constructor
  case timeout =>
    show ((intToUint32 ((uint32 (slice b 10 14)).toNat : Int)).toNat : Int) = _
    rw [intToUint32_ofNat_toNat]
    rfl
  case headers => exact deSerializeMap_section h.header_eq h.length_header (order m)
  all_goals rfl

/-- The headers delivered for it under the stream id `id`. -/
def deliveredRequest (b : List UInt8) (m : HeaderMap) (id : UInt32) : HeaderMap :=
  (decodeSterilize (streamIDConv id)
    ((markEnd (requestCommandV1 b).content
      (m ∪ GoMap.insertAll ∅ (requestFields (requestCommandV1 b)))).insert headerReqID
        (streamIDConv id))).2

theorem ForwardableRequest.encodeSterilize {b : List UInt8} {m : HeaderMap}
    {l : GoMap.Listing m} (h : ForwardableRequest b m l) (id : UInt32) (sender : Sender)
    (hclient : sender.direction = .clientStream) :
    encodeSterilize sender (.map (deliveredRequest b m id))
      = .map (m ∪ GoMap.insertAll ∅ (requestFields { requestCommandV1 b with reqID := id })) := by
  have hstatus : (deliveredRequest b m id).lookup headerStatus = none := by
    unfold deliveredRequest
    rw [lookup_decodeSterilize _ _ status_not_proxy, Finmap.lookup_insert_of_ne _ (by decide),
      lookup_headerStatus h.plain (requestFields_keys _)]
  rw [encodeSterilize_none sender hstatus, withoutProxyHeaders, hclient, if_neg (by decide)]
  exact congrArg _ (sterilized_request h.plain (requestCommandV1 b) id)

section Way

variable {ρ τ : Type} (h₁ h₂ : BoltCommandHandler τ)
  (order order' : HeaderOrder) (spare : List UInt8)
  (pool : Option SlabPool) (now now' : Int)

/-- The way of a request: it is decoded from `data`, flattened, delivered on
the server connection `conn` under the stream id `id`, sterilized by the
client stream `sender`, encoded and sent with its content; and what was sent
decodes to the same command. -/
def RequestForwarded (conn : StreamConnection ρ) (receiver : ρ) (sender : Sender)
    (data : IoBuffer) (m : HeaderMap) (id : UInt32) : Prop :=
  ∃ cmd rest header status conn' headers isEnd buf left cmd' rest',
    BoltV1Codec.decode now data = (.ok (some (.boltRequest cmd)), rest)
    ∧ deserializeRequestAllFields order spare cmd = .ok { cmd with requestHeader := some header }
    ∧ conn.onDecodeHeader (streamIDConv id) (markEnd cmd.content header) = .ok (status, conn')
    ∧ conn'.callbacks.getLast? = some (.receiveHeaders receiver headers isEnd)
    ∧ (defaultProtocols h₁ h₂).encodeHeaders order' pool (encodeSterilize sender (.map headers))
        = .ok (.ok buf, left)
    ∧ BoltV1Codec.decode now' (.newIoBufferBytes (buf.bytes ++ cmd.content))
        = (.ok (some (.boltRequest cmd')), rest')
    ∧ SameRequest cmd cmd' m id

theorem ForwardableRequest.encodes {b : List UInt8} {m : HeaderMap} {l : GoMap.Listing m}
    (h : ForwardableRequest b m l) (id : UInt32) (sender : Sender)
    (hclient : sender.direction = .clientStream) :
    ∃ buf, (defaultProtocols h₁ h₂).encodeHeaders order' pool
        (Stream.SofaRpc.encodeSterilize sender (.map (deliveredRequest b m id)))
          = .ok (.ok buf, .map m)
      ∧ buf.bytes = requestBytes (forwarded b m order' id) := by
  -- the properties are all there, so the encoder finds the command
  have hproto := lookup_fields m
    (requestFields { requestCommandV1 b with reqID := id }) headerProtocolCode
    (formatUint64 protocolCodeV1.toNat) (h.plain _ (by simp [boltProperties]))
    (requestFields_nodup _) (by simp [requestFields, sofaPropertyHeader, requestCommandV1])
  obtain ⟨buf, hencode, hbytes⟩ := encodeHeaders_map_request order' pool (h.mapToCmd order' id)
    (by rw [(h.sized order' id).class_eq]; omega)
  rw [← encodeHeaders_map_v1 h₁ h₂ order' pool _ _ hproto (convertPropertyValue_uint8 _),
    ← h.encodeSterilize id sender hclient] at hencode
  exact ⟨buf, hencode, hbytes⟩

/-- **A proxied request reaches the upstream unchanged**, under the stream
id, whatever the iteration orders, the memory behind the section, the buffer
pool and the clock. -/
theorem request_forwarded (data : IoBuffer) (m : HeaderMap) (l : GoMap.Listing m)
    (conn : StreamConnection ρ) (receiver : Nat → ρ) (id : UInt32) (sender : Sender)
    (h : ForwardableRequest data.bytes m l) (hcb : conn.serverCallbacks = some receiver)
    (hnew : conn.activeStreams.lookup (streamIDConv id) = none)
    (hclient : sender.direction = .clientStream) :
    RequestForwarded h₁ h₂ order order' spare pool now now' conn (receiver conn.detected) sender
      data m id := by
  -- in: a new stream, whose receiver gets the rewritten headers
  have hdecode := BoltV1Codec.decode_at now h.frame rfl
  have hdeliver := StreamConnection.onDecodeHeader_new
    (h.isSofaRequest (requestCommandV1 data.bytes).content) hcb hnew
  -- out: under the stream id
  obtain ⟨buf, hencode, hbytes⟩ := h.encodes h₁ h₂ order' pool id sender hclient
  obtain ⟨hat, hsame⟩ := h.decode_forwarded order' id
  rw [← hbytes] at hat hsame
  exact ⟨_, _, _, _, _, deliveredRequest data.bytes m id, _, buf, _, _, _, hdecode,
    h.deserialize order spare, hdeliver, List.getLast?_concat, hencode,
    BoltV1Codec.decode_frame now' hat rfl, hsame⟩

end Way

/-- One user header. -/
def oneHeader : HeaderMap := GoMap.insertAll ∅ [(str "k", str "v")]

def oneHeaderListing : GoMap.Listing oneHeader := GoMap.listingOf [(str "k", str "v")] (by decide)

theorem oneHeader_plain : PlainHeaders oneHeader := by
  intro k hk hmem
  have hdiff : ∀ k ∈ boltProperties ++ internalHeaders, k ∉ [str "k"] := by decide +kernel
  exact hdiff k hk ((oneHeaderListing.mem_keys k).mpr hmem)

/-- Class `a`, the header, one byte of content. -/
def oneHeaderRequest : List UInt8 :=
  [1, 1, 0, 1, 1, 0, 0, 0, 7, 1, 0, 0, 0, 100, 0, 1, 0, 10, 0, 0, 0, 1,
    97, 0, 0, 0, 1, 107, 0, 0, 0, 1, 118, 5]

theorem oneHeaderRequest_forwardable :
    ForwardableRequest oneHeaderRequest oneHeader oneHeaderListing where
  frame := by decide
  cmdType := by decide
  cmdCode := by decide
  timeout_lt := by decide
  classLen_lt := by decide
  headerLen_lt := by decide
  contentLen_lt := by decide
  header_eq := by decide
  plain := oneHeader_plain

theorem request_forwarded_one_header :
    RequestForwarded
      (newBoltCommandHandler (σ := StreamConnection Nat) StreamConnection.filter GoMap.someOrder [])
      (newBoltCommandHandlerV2 StreamConnection.filter GoMap.someOrder [])
      GoMap.someOrder GoMap.someOrder [] none 0 0
      (newStreamConnection (some (fun n => n))) 0
      ⟨streamIDConv 9, streamIDConv 9, .clientStream, none, none⟩
      (.newIoBufferBytes oneHeaderRequest) oneHeader 9 :=
  request_forwarded _ _ _ _ _ _ _ _ _ _ oneHeaderListing (newStreamConnection (some (fun n => n)))
    (fun n => n) 9 _ oneHeaderRequest_forwardable rfl rfl rfl

/-! ## §3. Responses. -/

/-- A response whose frame can be returned. -/
structure ReturnableResponse (b : List UInt8) (m : HeaderMap) (l : GoMap.Listing m) : Prop where
  frame : FrameKind.responseV1.At b
  cmdType : b.getD 1 0 = response
  cmdCode : (uint16 (slice b 2 4)).toInt16 = rpcResponse
  status_lt : (uint16 (slice b 10 12)).toNat < 2 ^ 15
  classLen_lt : FrameKind.responseV1.layout.classLen b < 2 ^ 15
  headerLen_lt : FrameKind.responseV1.layout.headerLen b < 2 ^ 15
  contentLen_lt : FrameKind.responseV1.layout.contentLen b < 2 ^ 31
  header_eq : (FrameKind.responseV1.layout.sections b).header = encodeMap l.entries
  plain : PlainHeaders m

/-- `c'` is `c` under the request id `id`. -/
structure SameResponse (c c' : BoltResponseCommand) (m : HeaderMap) (id : UInt32) : Prop where
  cmdType : c'.cmdType = c.cmdType
  cmdCode : c'.cmdCode = c.cmdCode
  version : c'.version = c.version
  codecPro : c'.codecPro = c.codecPro
  responseStatus : c'.responseStatus = c.responseStatus
  className : c'.className = c.className
  content : c'.content = c.content
  headers : ∀ spare, deSerializeMap spare c.headerMap ∅ = .ok m
    ∧ deSerializeMap spare c'.headerMap ∅ = .ok m
  reqID : c'.reqID = id

namespace ReturnableResponse

variable {b : List UInt8} {m : HeaderMap} {l : GoMap.Listing m}
  (now : Int) (order : HeaderOrder) (id : UInt32)

theorem length_header (h : ReturnableResponse b m l) : (encodeMap l.entries).length < 2 ^ 15 := by
  rw [← h.header_eq, (Layout.length_sections h.frame.2).2.1]
  exact h.headerLen_lt

theorem deSerialize (h : ReturnableResponse b m l) (spare : List UInt8) :
    deSerializeMap spare (responseCommandV1 now b).headerMap ∅ = .ok m :=
  (deSerializeMap_section h.header_eq h.length_header l spare).1

theorem deserialize (h : ReturnableResponse b m l) (spare : List UInt8) :
    deserializeResponseAllFields order spare (responseCommandV1 now b)
      = .ok { responseCommandV1 now b with
          responseHeader :=
            some (m ∪ GoMap.insertAll ∅ (responseFields (responseCommandV1 now b))) } := by
  exact deserializeResponseAllFields_ok order (h.deSerialize now spare)

/-- The command sent back, its time stamp `millis` aside. -/
def returned (b : List UInt8) (m : HeaderMap) (order : HeaderOrder)
    (id : UInt32) (millis : Int) : BoltResponseCommand :=
  { responseCommandV1 millis b with
    reqID := id
    headerMap := encodeMap (order m).entries
    content := [] }

theorem mapToCmd (h : ReturnableResponse b m l) : ∃ millis, BoltV1Codec.mapToCmd order
        (m ∪ GoMap.insertAll ∅ (responseFields { responseCommandV1 now b with reqID := id }))
      = .ok (some (.boltResponse (returned b m order id millis)), m) := by
  have hsub : ∀ k ∈ responseProperties, k ∈ boltProperties ++ internalHeaders := by
    simp [responseProperties, boltProperties]
  refine mapToCmd_responseFields order m { responseCommandV1 now b with reqID := id }
    (fun k hk => h.plain k (hsub k hk)) h.cmdCode ?_ ?_ ?_ ⟨_, rfl, ?_⟩
  · exact toInt_toInt16_nonneg ((uint16_slice b 12).trans_lt h.classLen_lt)
  · exact toInt_toInt16_nonneg ((uint16_slice b 14).trans_lt h.headerLen_lt)
  · exact toInt_toInt16_nonneg h.status_lt
  · exact (uint32_slice b 16).trans_lt h.contentLen_lt

theorem sized (h : ReturnableResponse b m l) (millis : Int) :
    (returned b m order id millis).Sized (responseCommandV1 now b).content := by
  obtain ⟨hcl, -, hct⟩ := Layout.length_sections h.frame.2
  have hperm := length_encodeMap_perm ((order m).perm l)
  have hheader := h.length_header
  have hcontent := h.contentLen_lt
  have hlen32 := uint32_slice b 16
  constructor
  · show (uint16 (slice b 12 14)).toInt16.toInt
      = ((FrameKind.responseV1.layout.sections b).className.length : Int)
    rw [toInt_toInt16_of_lt ((uint16_slice b 12).trans_lt h.classLen_lt), hcl]
    exact congrArg _ (uint16_slice b 12)
  · show (encodeMap (order m).entries).length < 2 ^ 16
    omega
  · show ((uint32 (slice b 16 20)).toNat : Int)
      = ((FrameKind.responseV1.layout.sections b).content.length : Int)
    rw [hct]
    exact congrArg _ hlen32
  · show (FrameKind.responseV1.layout.sections b).content.length < 2 ^ 32
    omega

theorem decode_returned (h : ReturnableResponse b m l) (now' millis : Int) :
    let frame := responseBytes (returned b m order id millis) ++ (responseCommandV1 now b).content
    FrameKind.responseV1.At frame
      ∧ SameResponse (responseCommandV1 now b) (responseCommandV1 now' frame) m id := by
  intro frame
  obtain ⟨hat, hcmd⟩ := responseCommandV1_responseBytes now' (returned b m order id millis)
    (responseCommandV1 now b).content rfl h.cmdType (h.sized now order id millis)
  refine ⟨hat, ?_⟩
  show SameResponse (responseCommandV1 now b) (responseCommandV1 now'
    (responseBytes (returned b m order id millis) ++ (responseCommandV1 now b).content)) m id
  rw [hcmd]
  constructor
  case headers => exact deSerializeMap_section h.header_eq h.length_header (order m)
  all_goals rfl

end ReturnableResponse

/-- The headers delivered for it to the stream it answers. -/
def deliveredResponse (now : Int) (b : List UInt8) (m : HeaderMap) : HeaderMap :=
  let c := responseCommandV1 now b
  (decodeSterilize (streamIDConv c.reqID)
    (markEnd c.content (m ∪ GoMap.insertAll ∅ (responseFields c)))).2

theorem ReturnableResponse.encodeSterilize {b : List UInt8} {m : HeaderMap}
    {l : GoMap.Listing m} (h : ReturnableResponse b m l) (now : Int) (id : UInt32)
    (sender : Sender) (hserver : sender.direction = .serverStream)
    (hid : sender.requestID = streamIDConv id) :
    encodeSterilize sender (.map (deliveredResponse now b m))
      = .map (m ∪ GoMap.insertAll ∅
          (responseFields { responseCommandV1 now b with reqID := id })) := by
  have hstatus : (deliveredResponse now b m).lookup headerStatus = none := by
    unfold deliveredResponse
    rw [lookup_decodeSterilize _ _ status_not_proxy,
      lookup_headerStatus h.plain (responseFields_keys _)]
  rw [encodeSterilize_none sender hstatus, withoutProxyHeaders, hserver, if_pos rfl, hid]
  exact congrArg _ (sterilized_response h.plain (responseCommandV1 now b) _ id)

section Way

variable {ρ τ : Type} (h₁ h₂ : BoltCommandHandler τ)
  (order order' : HeaderOrder) (spare : List UInt8)
  (pool : Option SlabPool) (now now' : Int)

/-- The way of a response: it is decoded from `data`, flattened, delivered on
the client connection `conn` under its own request id, sterilized by the
server stream `sender`, encoded and sent with its content; and what was sent
decodes to the same command. -/
def ResponseReturned (conn : StreamConnection ρ) (receiver : ρ) (sender : Sender)
    (data : IoBuffer) (m : HeaderMap) (id : UInt32) : Prop :=
  ∃ cmd rest header status conn' headers isEnd buf left cmd' rest',
    BoltV1Codec.decode now data = (.ok (some (.boltResponse cmd)), rest)
    ∧ deserializeResponseAllFields order spare cmd
        = .ok { cmd with responseHeader := some header }
    ∧ conn.onDecodeHeader (streamIDConv cmd.reqID) (markEnd cmd.content header)
        = .ok (status, conn')
    ∧ conn'.callbacks.getLast? = some (.receiveHeaders receiver headers isEnd)
    ∧ (defaultProtocols h₁ h₂).encodeHeaders order' pool (encodeSterilize sender (.map headers))
        = .ok (.ok buf, left)
    ∧ BoltV1Codec.decode now' (.newIoBufferBytes (buf.bytes ++ cmd.content))
        = (.ok (some (.boltResponse cmd')), rest')
    ∧ SameResponse cmd cmd' m id

theorem ReturnableResponse.encodes {b : List UInt8} {m : HeaderMap} {l : GoMap.Listing m}
    (h : ReturnableResponse b m l) (id : UInt32) (sender : Sender)
    (hserver : sender.direction = .serverStream) (hid : sender.requestID = streamIDConv id) :
    ∃ buf millis, (defaultProtocols h₁ h₂).encodeHeaders order' pool
        (Stream.SofaRpc.encodeSterilize sender (.map (deliveredResponse now b m)))
          = .ok (.ok buf, .map m)
      ∧ buf.bytes = responseBytes (returned b m order' id millis) := by
  have hproto := lookup_fields m
    (responseFields { responseCommandV1 now b with reqID := id }) headerProtocolCode
    (formatUint64 protocolCodeV1.toNat) (h.plain _ (by simp [boltProperties]))
    (responseFields_nodup _) (by simp [responseFields, sofaPropertyHeader, responseCommandV1])
  obtain ⟨millis, hcmd⟩ := h.mapToCmd now order' id
  obtain ⟨buf, hencode, hbytes⟩ := encodeHeaders_map_response order' pool hcmd
    (by rw [(h.sized now order' id millis).class_eq]; omega)
  rw [← encodeHeaders_map_v1 h₁ h₂ order' pool _ _ hproto (convertPropertyValue_uint8 _),
    ← h.encodeSterilize now id sender hserver hid] at hencode
  exact ⟨buf, millis, hencode, hbytes⟩

/-- **A proxied response reaches the client unchanged**, under the request id
the client chose. -/
theorem response_returned (data : IoBuffer) (m : HeaderMap) (l : GoMap.Listing m)
    (conn : StreamConnection ρ) (stream : StreamEntry ρ) (id : UInt32) (sender : Sender)
    (h : ReturnableResponse data.bytes m l)
    (hactive : conn.activeStreams.lookup (streamIDConv (uint32 (slice data.bytes 5 9)))
      = some stream)
    (hserver : sender.direction = .serverStream) (hid : sender.requestID = streamIDConv id) :
    ResponseReturned h₁ h₂ order order' spare pool now now' conn stream.decoder sender data m
      id := by
  -- in: the receiver of the stream under the frame's request id gets the headers
  have hdecode := BoltV1Codec.decode_at now h.frame rfl
  have hdeliver := StreamConnection.onDecodeHeader_active
    (markEnd (responseCommandV1 now data.bytes).content
      (m ∪ GoMap.insertAll ∅ (responseFields (responseCommandV1 now data.bytes)))) hactive
  -- out: under the request id of the stream that is answered
  obtain ⟨buf, millis, hencode, hbytes⟩ := h.encodes h₁ h₂ order' pool now id sender hserver hid
  obtain ⟨hat, hsame⟩ := h.decode_returned now order' id now' millis
  rw [← hbytes] at hat hsame
  exact ⟨_, _, _, _, _, deliveredResponse now data.bytes m, _, buf, _, _, _, hdecode,
    h.deserialize now order spare, hdeliver, List.getLast?_concat, hencode,
    BoltV1Codec.decode_frame now' hat rfl, hsame⟩

end Way

/-- An answer to stream 9: status 0, class `a`, the header, no content. -/
def oneHeaderResponse : List UInt8 :=
  [1, 0, 0, 2, 1, 0, 0, 0, 9, 1, 0, 0, 0, 1, 0, 10, 0, 0, 0, 0,
    97, 0, 0, 0, 1, 107, 0, 0, 0, 1, 118]

theorem oneHeaderResponse_returnable :
    ReturnableResponse oneHeaderResponse oneHeader oneHeaderListing where
  frame := by decide
  cmdType := by decide
  cmdCode := by decide
  status_lt := by decide
  classLen_lt := by decide
  headerLen_lt := by decide
  contentLen_lt := by decide
  header_eq := by decide
  plain := oneHeader_plain

theorem response_returned_one_header :
    ResponseReturned
      (newBoltCommandHandler (σ := StreamConnection Nat) StreamConnection.filter GoMap.someOrder [])
      (newBoltCommandHandlerV2 StreamConnection.filter GoMap.someOrder [])
      GoMap.someOrder GoMap.someOrder [] none 0 0
      ((newStreamConnection (none : Option (Nat → Nat))).newStream (streamIDConv 9) 3).2 3
      ⟨streamIDConv 9, streamIDConv 7, .serverStream, none, none⟩
      (.newIoBufferBytes oneHeaderResponse) oneHeader 7 :=
  response_returned _ _ _ _ _ _ _ _ _ _ oneHeaderListing _
    ⟨streamIDConv 9, streamIDConv 9, .clientStream, 3⟩ 7 _ oneHeaderResponse_returnable rfl rfl rfl

end Mosn.Stream.SofaRpc
