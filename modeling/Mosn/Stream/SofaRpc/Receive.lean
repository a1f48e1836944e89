/-
  Mosn.Stream.SofaRpc.Receive
  **ONE COMMAND ON ONE CONNECTION.**

  A pass of the decode loop hands a command to its processor, which calls
  back into the connection.  Three things can happen to the headers: they
  make a new stream, they go to the stream that already has this id, or they
  are dropped.  `take_new`, `take_active` and `take_unknown` give
  the connection afterwards; what the connection's log gains in one pass is
  what the results speak about.

    • `request_delivered_iff` — when a request makes exactly one stream whose
      receiver gets its headers and content.
-/
import Mosn.Stream.SofaRpc.Offer

namespace Mosn.Stream.SofaRpc

open Mosn.Lib Mosn.Types Mosn.Network Mosn.Protocol Mosn.Protocol.SofaRpc
open Mosn.Protocol.Serialize

/-! ## §1. Callbacks of a processor. -/

namespace StreamConnection

variable {ρ : Type} {conn conn' : StreamConnection ρ} {o : Offer} {stream : StreamEntry ρ}

theorem take_eq {status : FilterStatus}
    (h : conn.onDecodeHeader o.streamID o.marked = .ok (status, conn')) :
    filter.take (some o) conn
      = if status = .stopIteration ∨ o.content.getD [] = [] then .ok conn'
        else .ok (conn'.onDecodeData o.streamID (o.content.getD [])).2 := by
  obtain ⟨streamID, headers, content⟩ := o
  cases content with
  | none =>
    have hheader : filter.onDecodeHeader streamID headers conn = .ok (status, conn') := h
    simp only [DecodeFilter.take, callbackHeader, hheader, Option.getD_none, or_true, ↓reduceIte]
    rfl
  | some content =>
    have hheader : filter.onDecodeHeader streamID (markEnd content headers) conn
        = .ok (status, conn') := h
    simp only [DecodeFilter.take, callback, hheader, bind, Except.bind, pure, Except.pure,
      Option.getD_some]
    by_cases hs : status = .stopIteration
    · simp only [hs, ↓reduceIte, true_or]
    · by_cases hc : content = []
      · simp only [hs, hc, ↓reduceIte, or_true]
      · simp only [hs, hc, ↓reduceIte, or_self]
        rfl

/-- The content behind headers that went to `receiver`. -/
def deliverContent (conn : StreamConnection ρ) (receiver : ρ) (headers : HeaderMap)
    (content : List UInt8) : StreamConnection ρ :=
  if endsStream headers = true ∨ content = [] then conn
  else conn.call (.receiveData receiver content true)

/-- The calls for it. -/
def contentCalls (receiver : ρ) (headers : HeaderMap) (content : List UInt8) : List (Callback ρ) :=
  if endsStream headers = true ∨ content = [] then [] else [.receiveData receiver content true]

section DeliverContent

variable (conn : StreamConnection ρ) (receiver : ρ) (headers : HeaderMap) (content : List UInt8)

theorem callbacks_deliverContent :
    (conn.deliverContent receiver headers content).callbacks
      = conn.callbacks ++ contentCalls receiver headers content := by
  unfold deliverContent contentCalls
  split
  · exact (List.append_nil _).symm
  · rfl

@[simp] theorem serverCallbacks_deliverContent :
    (conn.deliverContent receiver headers content).serverCallbacks = conn.serverCallbacks := by
  unfold deliverContent
  split <;> rfl

@[simp] theorem activeStreams_deliverContent :
    (conn.deliverContent receiver headers content).activeStreams = conn.activeStreams := by
  unfold deliverContent
  split <;> rfl

@[simp] theorem written_deliverContent :
    (conn.deliverContent receiver headers content).written = conn.written := by
  unfold deliverContent
  split <;> rfl

@[simp] theorem detected_deliverContent :
    (conn.deliverContent receiver headers content).detected = conn.detected := by
  unfold deliverContent
  split <;> rfl

end DeliverContent

theorem receiver_of_mem_contentCalls {receiver : ρ} {headers : HeaderMap}
    {c : Callback ρ} (h : c ∈ contentCalls receiver headers content) : c.receiver = receiver := by
  unfold contentCalls at h
  split at h
  · cases h
  · rw [List.mem_singleton.mp h]
    rfl

theorem callbacks_deliver (conn : StreamConnection ρ) (receiver : ρ) (streamID : GoString)
    (headers : HeaderMap) (content : List UInt8) :
    ((conn.deliver receiver streamID headers).deliverContent receiver headers content).callbacks
      = conn.callbacks ++ (.receiveHeaders receiver (decodeSterilize streamID headers).2
          (endsStream headers) :: contentCalls receiver headers content) := by
  rw [callbacks_deliverContent]
  exact List.append_assoc _ _ _

/-- **A new stream**: one `NewStream` call, headers and content to the
receiver it returned. -/
theorem take_new {receiver : Nat → ρ} (hreq : isSofaRequest o.marked = true)
    (hcb : conn.serverCallbacks = some receiver)
    (hnew : conn.activeStreams.lookup o.streamID = none) :
    let marked := o.marked.insert headerReqID o.streamID
    let requestID := (o.marked.lookup headerReqID).getD o.streamID
    filter.take (some o) conn
      = .ok (((conn.detect receiver o.streamID requestID).deliver (receiver conn.detected)
          o.streamID marked).deliverContent (receiver conn.detected) marked
            (o.content.getD [])) := by
  intro marked requestID
  have hlookup : ((conn.detect receiver o.streamID requestID).deliver (receiver conn.detected)
      o.streamID marked).activeStreams.lookup o.streamID
        = some ⟨o.streamID, requestID, .serverStream, receiver conn.detected⟩ :=
    Finmap.lookup_insert _
  rw [take_eq (onDecodeHeader_new hreq hcb hnew)]
  unfold afterHeaders deliverContent onDecodeData
  rw [hlookup]
  -- a server stream stays in the map
  by_cases hend : endsStream marked = true
  · simp only [hend, marked, requestID, ↓reduceIte, true_or]
  · grind

/-- **A stream that is already there**: its receiver gets headers and
content; a client stream leaves the map with the content. -/
theorem take_active (hactive : conn.activeStreams.lookup o.streamID = some stream) :
    let conn' := (conn.deliver stream.decoder o.streamID o.marked).deliverContent stream.decoder
      o.marked (o.content.getD [])
    filter.take (some o) conn
      = .ok (if stream.direction = .clientStream ∧ endsStream o.marked = false
          ∧ o.content.getD [] ≠ []
        then { conn' with activeStreams := conn.activeStreams.erase stream.streamID }
        else conn') := by
  intro conn'
  have hlookup : (conn.deliver stream.decoder o.streamID o.marked).activeStreams.lookup o.streamID
      = some stream := hactive
  rw [take_eq (onDecodeHeader_active o.marked hactive)]
  unfold afterHeaders onDecodeData
  rw [hlookup]
  simp only [conn', deliverContent]
  by_cases hend : endsStream o.marked = true
  · simp only [hend, ↓reduceIte, true_or, Bool.true_eq_false, false_and, and_false]
  · by_cases hc : o.content.getD [] = []
    · simp only [hc, or_true, ↓reduceIte, ne_eq, not_true_eq_false, and_false]
    · by_cases hdir : stream.direction = .clientStream
      · simp only [hend, hc, hdir, ↓reduceIte, reduceCtorEq, Bool.false_eq_true, or_self, ne_eq,
          not_false_eq_true, and_self]
        rfl
      · grind

theorem take_active_calls (hactive : conn.activeStreams.lookup o.streamID = some stream) :
    ∃ conn', filter.take (some o) conn = .ok conn'
      ∧ conn'.serverCallbacks = conn.serverCallbacks
      ∧ conn'.callbacks = conn.callbacks ++
        (.receiveHeaders stream.decoder (decodeSterilize o.streamID o.marked).2
            (endsStream o.marked)
          :: contentCalls stream.decoder o.marked (o.content.getD [])) := by
  refine ⟨_, take_active hactive, ?_, ?_⟩
  · split
    all_goals exact serverCallbacks_deliverContent _ _ _ _
  · split
    all_goals exact callbacks_deliver conn stream.decoder o.streamID _ _

/-- **Nothing to answer and nobody to tell**: dropped. -/
theorem take_unknown (hreq : isSofaRequest o.marked = false)
    (hnew : conn.activeStreams.lookup o.streamID = none) :
    filter.take (some o) conn = .ok conn := by
  rw [take_eq (onDecodeHeader_unknown hreq hnew)]
  unfold onDecodeData
  rw [hnew]
  split <;> rfl

theorem onDecodeHeader_panics (hreq : isSofaRequest headers = true)
    (hcb : conn.serverCallbacks = none) (hnew : conn.activeStreams.lookup streamID = none) :
    conn.onDecodeHeader streamID headers = .error .nilDereference := by
  simp only [onDecodeHeader, hreq, ↓reduceIte, onNewStreamDetected, hnew, hcb,
    Option.isSome_none, Bool.false_eq_true]
  rfl

theorem take_panics (hreq : isSofaRequest o.marked = true) (hcb : conn.serverCallbacks = none)
    (hnew : conn.activeStreams.lookup o.streamID = none) :
    filter.take (some o) conn = .error .nilDereference := by
  have hheader : filter.onDecodeHeader o.streamID o.marked conn = .error .nilDereference :=
    onDecodeHeader_panics hreq hcb hnew
  obtain ⟨streamID, headers, content⟩ := o
  cases content with
  | none | some =>
    simp only [Offer.marked] at hheader
    simp only [DecodeFilter.take, callback, callbackHeader, hheader]
    rfl

/-- **What a client connection makes of an offer**: calls to the receiver
registered under its id, if there is one; that stream may leave the map. -/
theorem take_client (hcb : conn.serverCallbacks = none)
    (h : filter.take (some o) conn = .ok conn') :
    (∃ added, conn'.callbacks = conn.callbacks ++ added
        ∧ ∀ c ∈ added, ∃ stream, conn.activeStreams.lookup o.streamID = some stream
          ∧ c.receiver = stream.decoder)
      ∧ conn'.serverCallbacks = none ∧ conn'.written = conn.written
      ∧ ∀ k e, conn'.activeStreams.lookup k = some e → conn.activeStreams.lookup k = some e := by
  cases hactive : conn.activeStreams.lookup o.streamID with
  | some stream =>
    obtain ⟨conn₁, hcall, hcb₁, hcalls⟩ := take_active_calls hactive
    have hconn := take_active hactive
    rw [h] at hcall hconn
    cases hcall
    refine ⟨⟨_, hcalls, fun c hc => ⟨stream, rfl, ?_⟩⟩, hcb₁.trans hcb, ?_, ?_⟩
    · rcases List.mem_cons.mp hc with heq | hc
      · rw [heq]
        rfl
      · exact receiver_of_mem_contentCalls hc
    · rw [Except.ok.inj hconn]
      split
      all_goals exact written_deliverContent _ _ _ _
    · -- the stream may have left the map with its content, nothing has come into it
      intro k e hk
      rw [Except.ok.inj hconn] at hk
      split at hk
      · rw [GoMap.lookup_erase_ite] at hk
        split at hk
        · cases hk
        · exact hk
      · rwa [activeStreams_deliverContent] at hk
  | none =>
    cases hreq : isSofaRequest o.marked with
    | true =>
      -- a request has no one to announce it to on a client connection
      rw [take_panics hreq hcb hactive] at h
      cases h
    | false =>
      rw [take_unknown hreq hactive] at h
      cases h
      exact ⟨⟨[], (List.append_nil _).symm, fun c hc => absurd hc List.not_mem_nil⟩, hcb, rfl,
        fun _ _ hk => hk⟩

end StreamConnection

/-! ## §2. A pass of the loop. -/

section Pass

variable {ρ : Type} (order : HeaderOrder) {spare : List UInt8}

/-- What a request command becomes under the user's headers `m`. -/
def requestHeaders (b : List UInt8) (m : HeaderMap) : HeaderMap :=
  m ∪ GoMap.insertAll ∅ (requestFields (requestCommandV1 b))

/-- What an RPC request offers, under the next generated id. -/
def requestOffer (g : IDGenerator) (b : List UInt8) (m : HeaderMap) : Offer :=
  ⟨g.getString.1, requestHeaders b m, some (requestCommandV1 b).content⟩

variable {b : List UInt8} {m : HeaderMap}
  {s : ConnLoop ρ}

theorem offer_request (hcode : (Command.boltRequest (requestCommandV1 b)).getCmdCode = rpcRequest)
    (hm : deSerializeMap spare (requestCommandV1 b).headerMap ∅ = .ok m) (g : IDGenerator) :
    offer order spare g (.boltRequest (requestCommandV1 b))
      = .ok (some (requestOffer g b m), g.getString.2) :=
  (offer_rpcRequest order spare g hcode).trans
    (congrArg (Except.map _) (allFields_ok order _ hm))

/-- The pass of the decode loop over one frame. -/
def passOver (spare : List UInt8) (clock : Nat → Int) (b : List UInt8)
    (w : ConnWorld ρ) :
    Except Panic (Next (ConnLoop ρ)) :=
  Protocols.decodeBody (StreamConnection.protocols order spare)
    StreamConnection.reportDecodeError clock ⟨.newIoBufferBytes b, w, [], []⟩

theorem decodeBody_response {clock : Nat → Int} {s' : ConnLoop ρ}
    (hk : FrameKind.responseV1.At s.data.bytes)
    (hcode : (uint16 (slice s.data.bytes 2 4)).toInt16 = rpcResponse)
    (h : StreamConnection.pass order spare clock s = .ok (.again s')) :
    ∃ headers content, StreamConnection.filter.take
        (some ⟨streamIDConv (uint32 (slice s.data.bytes 5 9)), headers, some content⟩)
          s.env.filter = .ok s'.env.filter
      ∧ s'.env.generator = s.env.generator := by
  rw [decodeBody_offer order spare clock s hk (FrameKind.handled_response hcode)] at h
  obtain ⟨w', htake, hs'⟩ := map_eq_ok.mp h
  cases hs'
  simp only [takeOffer, bind_eq_ok] at htake
  obtain ⟨⟨o, g⟩, hoffer, conn', hcall, hw'⟩ := htake
  have hcmd : (FrameKind.responseV1.command (clock s.handed.length) s.data.bytes).getCmdCode
      = rpcResponse := hcode
  rw [offer_rpcResponse order spare _ hcmd] at hoffer
  obtain ⟨headers, -, ho⟩ := map_eq_ok.mp hoffer
  cases ho
  cases hw'
  exact ⟨headers, _, hcall, rfl⟩

theorem ReturnableResponse.pass {l : GoMap.Listing m}
    (h : ReturnableResponse b m l) (spare : List UInt8) (clock : Nat → Int) (g : IDGenerator)
    {conn : StreamConnection ρ} {stream : StreamEntry ρ}
    (hactive : conn.activeStreams.lookup (streamIDConv (uint32 (slice b 5 9))) = some stream) :
    ∃ s' added, passOver order spare clock b ⟨g, conn⟩ = .ok (.again s')
      ∧ s'.env.filter.callbacks = conn.callbacks ++
        .receiveHeaders stream.decoder (deliveredResponse (clock 0) b m)
          (endsStream (markEnd (responseCommandV1 (clock 0) b).content
            (m ∪ GoMap.insertAll ∅ (responseFields (responseCommandV1 (clock 0) b)))))
          :: added := by
  have hcode : (Command.boltResponse (responseCommandV1 (clock 0) b)).getCmdCode = rpcResponse :=
    h.cmdCode
  have hoffer := (offer_rpcResponse order spare g hcode).trans
    (congrArg (Except.map _) (allFields_ok order _ (h.deSerialize (clock 0) spare)))
  obtain ⟨conn', htake, -, hcalls⟩ := StreamConnection.take_active_calls
    (o := ⟨streamIDConv (uint32 (slice b 5 9)),
      m ∪ GoMap.insertAll ∅ (responseFields (responseCommandV1 (clock 0) b)),
      some (responseCommandV1 (clock 0) b).content⟩) hactive
  exact ⟨_, _, decodeBody_take order spare clock ⟨.newIoBufferBytes b, ⟨g, conn⟩, [], []⟩ h.frame
    (FrameKind.handled_response h.cmdCode) hoffer htake, hcalls⟩

end Pass

/-! ## §3. Requests are not lost. -/

/-- A complete RPC request, two-way or one-way, whose header section decodes
to `m`, with no Bolt property among its keys. -/
structure AcceptedRequest (b spare : List UInt8) (m : HeaderMap) : Prop where
  frame : FrameKind.requestV1.At b
  cmdCode : (uint16 (slice b 2 4)).toInt16 = rpcRequest
  decodable : decodeMap spare (requestCommandV1 b).headerMap ∅ = .ok (m, none)
  plain : ∀ k ∈ boltProperties, k ∉ m

namespace AcceptedRequest

variable {b spare : List UInt8} {m : HeaderMap}

theorem deSerialize (h : AcceptedRequest b spare m) :
    deSerializeMap spare (requestCommandV1 b).headerMap ∅ = .ok m := by
  have hdec := h.decodable
  unfold deSerializeMap
  split
  next hlen =>
      rw [List.eq_nil_of_length_eq_zero hlen, decodeMap_nil] at hdec
      cases hdec
      rfl
  next => rw [hdec]

theorem lookup (h : AcceptedRequest b spare m) (content : List UInt8) {k v : GoString}
    (hk : k ∈ boltProperties) (hmem : (k, v) ∈ requestFields (requestCommandV1 b)) :
    (markEnd content (requestHeaders b m)).lookup k = some v := by
  exact lookup_markEnd_fields h.plain _ content hk hmem

theorem isSofaRequest (h : AcceptedRequest b spare m) (content : List UInt8) :
    isSofaRequest (markEnd content (requestHeaders b m)) = decide (b.getD 1 0 = request) := by
  exact isSofaRequest_fields h.plain b content

theorem endsStream_iff (h : AcceptedRequest b spare m) {content : List UInt8}
    (hc : content ≠ []) (streamID : GoString) :
    endsStream ((markEnd content (requestHeaders b m)).insert headerReqID streamID) = true
      ↔ headerStremEnd ∈ m := by
  have hcode := h.lookup content (k := headerCmdCode) (v := formatUint64 rpcRequest.toInt)
    (by simp [boltProperties])
    (by simp [requestFields, sofaPropertyHeader, requestCommandV1, ← h.cmdCode])
  have hfield : headerStremEnd ∉ (requestFields (requestCommandV1 b)).map Prod.fst :=
    internal_not_field (requestFields_keys _) (by simp [internalHeaders])
  have hnot : ¬ (GoValue.int16 rpcRequest = .int16 heartbeat) := by decide
  unfold endsStream
  rw [Finmap.lookup_insert_of_ne _ (by decide), hcode, Finmap.lookup_insert_of_ne _ (by decide)]
  simp only [convertPropertyValue_int16 rpcRequest (by decide), hnot, decide_false,
    Bool.false_or, markEnd, hc, ↓reduceIte, requestHeaders, GoMap.lookup_union_orElse,
    GoMap.lookup_insertAll_of_notMem _ _ _ hfield, Finmap.lookup_empty]
  rw [Finmap.mem_iff]
  cases m.lookup headerStremEnd <;> simp

theorem content_follows_iff (h : AcceptedRequest b spare m) (content : List UInt8)
    (streamID : GoString) : (content = []
        ∨ endsStream ((markEnd content (requestHeaders b m)).insert headerReqID streamID) = false)
      ↔ content = [] ∨ headerStremEnd ∉ m := by
  by_cases hc : content = []
  · exact iff_of_true (Or.inl hc) (Or.inl hc)
  · rw [← h.endsStream_iff hc streamID, Bool.not_eq_true]

end AcceptedRequest

def Callback.isNewStream {ρ : Type} : Callback ρ → Bool
  | .newStream _ _ _ => true
  | _ => false

section Delivered

variable {ρ : Type}

/-- Between `conn` and `conn'` there was exactly one `NewStream` call, and the
receiver it returned got `headers`, up to the request id and internal keys,
and the content if there is any. -/
def DeliveredOnce (conn conn' : StreamConnection ρ) (headers : HeaderMap)
    (content : List UInt8) : Prop :=
  ∃ added receiver streamID requestID,
    conn'.callbacks = conn.callbacks ++ added
    ∧ added.filter Callback.isNewStream = [.newStream receiver streamID requestID]
    ∧ (∃ delivered isEnd, .receiveHeaders receiver delivered isEnd ∈ added
      ∧ ∀ k, k ∉ proxyHeaders → k ≠ headerReqID → delivered.lookup k = headers.lookup k)
    ∧ (content ≠ [] → .receiveData receiver content true ∈ added)

theorem filter_contentCalls (receiver : ρ) (headers : HeaderMap) (content : List UInt8) :
    (StreamConnection.contentCalls receiver headers content).filter Callback.isNewStream = [] := by
  unfold StreamConnection.contentCalls
  split <;> rfl

theorem receiveHeaders_notMem_contentCalls (receiver : ρ) (headers : HeaderMap)
    (content : List UInt8) (r : ρ) (h : HeaderMap) (e : Bool) : (.receiveHeaders r h e : Callback ρ)
      ∉ StreamConnection.contentCalls receiver headers content := by
  unfold StreamConnection.contentCalls
  split <;> simp

variable {conn conn' : StreamConnection ρ} {headers : HeaderMap} {content : List UInt8}

theorem not_deliveredOnce (added : List (Callback ρ))
    (hadded : conn'.callbacks = conn.callbacks ++ added)
    (hno : added.filter Callback.isNewStream = []) :
    ¬ DeliveredOnce conn conn' headers content := by
  intro h
  obtain ⟨added', receiver, streamID, requestID, hadded', hone, -⟩ := h
  rw [hadded] at hadded'
  rw [← List.append_cancel_left hadded', hno] at hone
  cases hone

theorem deliveredOnce_new_iff {marked : HeaderMap} {receiver : ρ} {streamID requestID : GoString}
    (hadded : conn'.callbacks = conn.callbacks ++
      (.newStream receiver streamID requestID
        :: .receiveHeaders receiver (decodeSterilize streamID marked).2 (endsStream marked)
        :: StreamConnection.contentCalls receiver marked content))
    (hmarked : ∀ k, k ∉ proxyHeaders → k ≠ headerReqID → marked.lookup k = headers.lookup k) :
    DeliveredOnce conn conn' headers content ↔ content = [] ∨ endsStream marked = false := by
  constructor
  · intro h
    obtain ⟨added, receiver', streamID', requestID', hadded', -, -, hdata⟩ := h
    rw [hadded] at hadded'
    rw [← List.append_cancel_left hadded'] at hdata
    by_cases hc : content = []
    · exact Or.inl hc
    · grind [StreamConnection.contentCalls]
  · intro hor
    refine ⟨_, receiver, streamID, requestID, hadded, ?_, ⟨_, _,
      List.mem_cons_of_mem _ List.mem_cons_self, ?_⟩, ?_⟩
    · grind [StreamConnection.contentCalls, Callback.isNewStream, filter_contentCalls]
    · intro k hk hne
      rw [lookup_decodeSterilize _ _ hk, hmarked k hk hne]
    · intro hc
      have hend := hor.resolve_left hc
      simp [StreamConnection.contentCalls, hend, hc]

variable (order : HeaderOrder) {spare : List UInt8} (clock : Nat → Int)
  {s : ConnLoop ρ} {m : HeaderMap}

variable {conn' : StreamConnection ρ}

theorem AcceptedRequest.pass (h : AcceptedRequest s.data.bytes spare m)
    (htake : StreamConnection.filter.take (some (requestOffer s.env.generator s.data.bytes m))
      s.env.filter = .ok conn') :
    ∃ s', StreamConnection.pass order spare clock s = .ok (.again s')
      ∧ s'.env = ⟨s.env.generator.getString.2, conn'⟩ := by
  exact ⟨_, decodeBody_take order spare clock s h.frame (FrameKind.handled_request h.cmdCode)
    (offer_request order h.cmdCode h.deSerialize _) htake, rfl⟩

theorem AcceptedRequest.deliveredOnce_iff (h : AcceptedRequest s.data.bytes spare m)
    {headers : HeaderMap} {content : List UInt8}
    (htake : StreamConnection.filter.take (some (requestOffer s.env.generator s.data.bytes m))
      s.env.filter = .ok conn') :
    (∃ s', StreamConnection.pass order spare clock s = .ok (.again s')
        ∧ DeliveredOnce s.env.filter s'.env.filter headers content)
      ↔ DeliveredOnce s.env.filter conn' headers content := by
  obtain ⟨s', hs', henv⟩ := h.pass order clock htake
  constructor
  · grind
  · intro hdel
    exact ⟨s', hs', by rw [henv]; exact hdel⟩

/-- **When a request is delivered**: exactly when it is two-way, the id
generated for it is not that of an active stream, and its user headers do not
claim the end of the stream in front of content. -/
theorem request_delivered_iff (receiver : Nat → ρ) (h : AcceptedRequest s.data.bytes spare m)
    (hcb : s.env.filter.serverCallbacks = some receiver) :
    (∃ s', Protocols.decodeBody (StreamConnection.protocols order spare)
          StreamConnection.reportDecodeError clock s = .ok (.again s')
        ∧ DeliveredOnce s.env.filter s'.env.filter (requestHeaders s.data.bytes m)
          (requestCommandV1 s.data.bytes).content)
      ↔ s.data.bytes.getD 1 0 = request
        ∧ s.env.filter.activeStreams.lookup s.env.generator.getString.1 = none
        ∧ ((requestCommandV1 s.data.bytes).content = [] ∨ headerStremEnd ∉ m) := by
  let content := (requestCommandV1 s.data.bytes).content
  cases hactive : s.env.filter.activeStreams.lookup s.env.generator.getString.1 with
  | some stream =>
    -- the headers go to that stream's receiver, and no stream is made
    obtain ⟨conn', htake, -, hcalls⟩ := StreamConnection.take_active_calls
      (o := requestOffer s.env.generator s.data.bytes m) hactive
    rw [h.deliveredOnce_iff order clock htake]
    exact iff_of_false (not_deliveredOnce _ hcalls (filter_contentCalls _ _ _))
      (fun hc => nomatch hc.2.1)
  | none =>
    by_cases htype : s.data.bytes.getD 1 0 = request
    · have hreq := (h.isSofaRequest content).trans (decide_eq_true htype)
      rw [h.deliveredOnce_iff order clock (StreamConnection.take_new hreq hcb hactive),
        deliveredOnce_new_iff
          ((StreamConnection.callbacks_deliver _ _ _ _ _).trans (List.append_assoc _ _ _))
          (fun k hk hne => (Finmap.lookup_insert_of_ne _ hne).trans (lookup_markEnd _ _ hk))]
      refine (h.content_follows_iff content _).trans ?_
      exact ⟨fun hor => ⟨htype, rfl, hor⟩, fun hand => hand.2.2⟩
    · -- a one-way request is no request to `IsSofaRequest`, so its headers are dropped
      have hreq := (h.isSofaRequest content).trans (decide_eq_false htype)
      rw [h.deliveredOnce_iff order clock (StreamConnection.take_unknown hreq hactive)]
      refine iff_of_false (not_deliveredOnce [] (List.append_nil _).symm rfl) ?_
      exact fun hc => htype hc.1

end Delivered

/-- A new server connection with `b` to read; receivers are numbered. -/
def serverStart (b : List UInt8) : ConnLoop Nat where
  data := .newIoBufferBytes b
  env := ⟨⟨0⟩, newStreamConnection (some (fun n => n))⟩
  handed := []
  errors := []

theorem oneHeaderRequest_accepted : AcceptedRequest oneHeaderRequest [] oneHeader where
  frame := by decide
  cmdCode := by decide
  decodable :=
    decodeMap_encodeMap [] [(str "k", str "v")] ∅ (encodable_of_length _ (by decide))
  plain := fun k hk => oneHeader_plain k (List.mem_append_left _ hk)

theorem request_delivered_one_header :
    ∃ s', Protocols.decodeBody (StreamConnection.protocols GoMap.someOrder [])
        StreamConnection.reportDecodeError (fun _ => 0) (serverStart oneHeaderRequest)
          = .ok (.again s')
      ∧ DeliveredOnce (newStreamConnection (some (fun n => n))) s'.env.filter
        (requestHeaders oneHeaderRequest oneHeader) [5] :=
  (request_delivered_iff (s := serverStart oneHeaderRequest) GoMap.someOrder (fun _ => 0)
    (fun n => n) oneHeaderRequest_accepted rfl).mpr
    ⟨by decide, rfl, Or.inr (oneHeader_plain _ (by simp [internalHeaders]))⟩

/-- A one-way request: no class, no headers, no content. -/
def onewayRequest : List UInt8 :=
  [1, 2, 0, 1, 1, 0, 0, 0, 7, 1, 0, 0, 0, 100, 0, 0, 0, 0, 0, 0, 0, 0]

theorem onewayRequest_accepted : AcceptedRequest onewayRequest [] ∅ where
  frame := by decide
  cmdCode := by decide
  decodable := decodeMap_encodeMap [] [] ∅ (fun e he => absurd he List.not_mem_nil)
  plain := fun k _ => Finmap.notMem_empty

/-- **A one-way request is dropped**: the pass goes on without one call into
the proxy. -/
theorem oneway_request_dropped : AcceptedRequest onewayRequest [] ∅
      ∧ ∃ s', Protocols.decodeBody (StreamConnection.protocols GoMap.someOrder [])
          StreamConnection.reportDecodeError (fun _ => 0) (serverStart onewayRequest)
            = .ok (.again s')
        ∧ s'.env.filter.callbacks = [] := by
  have hreq := (onewayRequest_accepted.isSofaRequest (requestCommandV1 onewayRequest).content).trans
    (decide_eq_false (by decide))
  obtain ⟨s', hs', henv⟩ := AcceptedRequest.pass (s := serverStart onewayRequest) GoMap.someOrder
    (fun _ => 0) onewayRequest_accepted (StreamConnection.take_unknown hreq rfl)
  exact ⟨onewayRequest_accepted, s', hs', by rw [henv]; rfl⟩

end Mosn.Stream.SofaRpc
