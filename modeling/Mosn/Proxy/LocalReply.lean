/-
  Mosn.Proxy.LocalReply
  **REPLIES THE PROXY MAKES ITSELF** (`pkg/proxy/downstream.go`,
  `pkg/proxy/upstream.go`).

  When there is no route, no healthy upstream, a reset or a timeout, the
  proxy answers in the upstream's place: `sendHijackReply` puts a status into
  the REQUEST's header map and gives that map to the response sender.  It is
  the same map that every attempt to send the request upstream has gone
  through, and encoding takes the properties out of it.

    • `hijack_delivered_iff` — the reply reaches the client exactly when
      the map still says protocol 1 (and the sender knows the request id).

  Neither stream filters nor timers touch the three things a local reply
  depends on, and are left out.
-/
import Mosn.Lib.Transition
import Mosn.Stream.SofaRpc.Receive

namespace Mosn.Proxy

open Mosn.Lib Mosn.Types Mosn.Network Mosn.Protocol Mosn.Protocol.SofaRpc Mosn.Stream.SofaRpc

/-! ## §1. The stream of a request. -/

/-- `downStream`, as far as a local reply depends on it. -/
structure DownStream (ρ : Type) where
  conn : StreamConnection ρ
  responseSender : Sender
  downstreamReqHeaders : HeaderMap

/-- `upstreamRequest.appendHeaders` and, once the pool has a connection,
`OnReady`: a client stream under the id in the headers sends them. -/
def upstreamAppendHeaders {ρ : Type} (encode : Headers → EncodeResult)
    (client : StreamConnection ρ) (receiver : ρ) (headers : HeaderMap) (endStream : Bool) :
    Except Panic (StreamConnection.Appended ρ) :=
  let streamID := (headers.lookup headerStreamID).getD []
  let (requestSender, client) := client.newStream streamID receiver
  client.appendHeaders encode requestSender (.map headers) endStream

/-- `sendHijackReply` with the request's headers. -/
def sendHijackReply {ρ : Type} (encode : Headers → EncodeResult) (code : Int)
    (d : DownStream ρ) : Except Panic (DownStream ρ) := do
  let headers := d.downstreamReqHeaders.insert headerStatus (Strconv.itoa code)
  let a ← d.conn.appendHeaders encode d.responseSender (.map headers) true
  -- an error of `AppendHeaders` is only logged
  let left := match a.headers with
    | .map m => m
    | _ => headers
  return ⟨a.conn, a.sender, left⟩

/-- The codes `sendHijackReply` is called with. -/
def hijackCodes : List Int :=
  [routerUnavailableCode, noHealthUpstreamCode, timeoutExceptionCode, codecExceptionCode,
    deserialExceptionCode, unknownCode]

section Life

variable {ρ : Type}

/-- The stream made for the request frame `b` with the user headers `m`: its
headers were delivered under a new id, with one `NewStream` call. -/
inductive Received (b : List UInt8) (m : HeaderMap) : DownStream ρ → Prop where
  | intro {conn conn' : StreamConnection ρ} {serverCallbacks : Nat → ρ} {receiver : ρ}
      {streamID requestID : GoString} {headers : HeaderMap} {status : FilterStatus}
      {isEnd : Bool} :
      conn.serverCallbacks = some serverCallbacks →
      conn.onDecodeHeader streamID (markEnd (requestCommandV1 b).content (requestHeaders b m))
        = .ok (status, conn') →
      conn'.callbacks = conn.callbacks
        ++ [.newStream receiver streamID requestID, .receiveHeaders receiver headers isEnd] →
      Received b m ⟨conn', ⟨streamID, requestID, .serverStream, none, none⟩, headers⟩

/-- What can happen to it before a response has started. -/
inductive LifeEvent where
  /-- The request is sent, or sent again, to an upstream. -/
  | forward
  /-- Other streams come and go on the downstream connection. -/
  | others
  deriving Repr, DecidableEq

inductive LifeStep : DownStream ρ → LifeEvent → DownStream ρ → Prop where
  | forward {d : DownStream ρ} {κ τ : Type} {h₁ h₂ : BoltCommandHandler τ}
      {order : HeaderOrder} {pool : Option SlabPool}
      {client : StreamConnection κ} {receiver : κ} {endStream : Bool}
      {a : StreamConnection.Appended κ} {headers : HeaderMap} :
      upstreamAppendHeaders ((defaultProtocols h₁ h₂).encodeHeaders order pool) client receiver
        d.downstreamReqHeaders endStream = .ok a →
      a.headers = .map headers →
      LifeStep d .forward { d with downstreamReqHeaders := headers }
  | others {d : DownStream ρ} {conn' : StreamConnection ρ} :
      conn'.activeStreams.lookup d.responseSender.streamID
        = d.conn.activeStreams.lookup d.responseSender.streamID →
      LifeStep d .others { d with conn := conn' }

/-- What stays true until a reply is made: the stream is in the map and
nothing has been encoded for it. -/
structure Unanswered (d : DownStream ρ) : Prop where
  server : d.responseSender.direction = .serverStream
  active : (d.conn.activeStreams.lookup d.responseSender.streamID).isSome = true
  noData : d.responseSender.encodedData = none

variable {d d' : DownStream ρ}

theorem LifeStep.unanswered {e : LifeEvent} (h : Unanswered d)
    (hstep : LifeStep d e d') : Unanswered d' := by
  cases hstep with
  | forward _ _ => exact ⟨h.server, h.active, h.noData⟩
  | others hkeep => exact ⟨h.server, by rw [hkeep]; exact h.active, h.noData⟩

theorem Received.unanswered {b : List UInt8} {m : HeaderMap}
    (h : Received b m d) : Unanswered d := by
  obtain @⟨conn, conn', serverCallbacks, receiver, streamID, requestID, headers, status, isEnd,
    hcb, hdecode, hcalls⟩ := h
  refine ⟨rfl, ?_, rfl⟩
  show (conn'.activeStreams.lookup streamID).isSome = true
  cases hactive : conn.activeStreams.lookup streamID with
  | some stream =>
    rw [StreamConnection.onDecodeHeader_active _ hactive] at hdecode
    cases hdecode
    exact Option.isSome_iff_exists.mpr ⟨stream, hactive⟩
  | none =>
    cases hreq : isSofaRequest (markEnd (requestCommandV1 b).content (requestHeaders b m)) with
    | true =>
      rw [StreamConnection.onDecodeHeader_new hreq hcb hactive] at hdecode
      cases hdecode
      exact Option.isSome_iff_exists.mpr ⟨_, Finmap.lookup_insert _⟩
    | false =>
      -- dropped headers are no calls
      rw [StreamConnection.onDecodeHeader_unknown hreq hactive] at hdecode
      cases hdecode
      exact absurd (List.append_cancel_left ((List.append_nil _).trans hcalls))
        (List.cons_ne_nil _ _).symm

theorem Unanswered.run {es : List LifeEvent} (h : Unanswered d)
    (hrun : Run LifeStep d es d') : Unanswered d' :=
  hrun.invariant Unanswered (fun _ _ _ hd hstep => hstep.unanswered hd) h

end Life

/-! ## §2. The reply. -/

theorem atoi_hijackCode {code : Int} (h : code ∈ hijackCodes) :
    (Strconv.atoi (Strconv.itoa code)).1 = code ∧ code ≠ successCode := by
  revert code
  decide +kernel

theorem respStatusOf_ne_success (code : Int) : respStatusOf code ≠ responseStatusSuccess := by
  unfold respStatusOf
  split_ifs <;> decide

variable {v : GoString} {headers : HeaderMap}

theorem atoi_of_uint8_v1 (h : convertPropertyValue v .uint8 = .uint8 protocolCodeV1) :
    UInt8.ofInt (Strconv.atoi v).1 = protocolCodeV1 := by
  have hne : v ≠ [] := by
    intro hv
    rw [hv] at h
    exact absurd h (by decide)
  have hdigits : Strconv.parseUint v 8 = Strconv.parseDigits (2 ^ 8 - 1) 0 v := if_neg hne
  have hle := Strconv.parseDigits_fst_le (2 ^ 8 - 1) v 0 (Nat.zero_le _)
  have herr := Strconv.parseDigits_error (2 ^ 8 - 1) v 0
  rw [← hdigits] at hle herr
  have hval : UInt8.ofNat (Strconv.parseUint v 8).1 = protocolCodeV1 := GoValue.uint8.inj h
  have hone : (Strconv.parseUint v 8).1 = 1 := by
    have hnat := congrArg UInt8.toNat hval
    rw [UInt8.toNat_ofNat', show protocolCodeV1.toNat = 1 from rfl] at hnat
    omega
  -- an error would have left 0 or 255
  have hnone : (Strconv.parseUint v 8).2 = none := by
    by_contra hsome
    have := herr hsome
    omega
  rw [Strconv.atoi_of_parseUint (show 8 ≤ 63 by decide) (Prod.ext hone hnone)]
  decide

theorem buildSofaRespMsg_v1 (status : Int16)
    (hpro : UInt8.ofInt (atoiHeader headers headerProtocolCode) = protocolCodeV1)
    (hid : headers.lookup headerReqID = some v) :
    ∃ c, buildSofaRespMsg headers status = .ok (.boltResponse c)
      ∧ c.protocol = protocolCodeV1 ∧ c.cmdType = response ∧ c.Sized []
      ∧ c.className = [] ∧ c.headerMap = []
      ∧ c.reqID = UInt32.ofInt (Strconv.atoi v).1 ∧ c.responseStatus = status := by
  simp only [buildSofaRespMsg, sofaPropertyHeader, hid, hpro, ↓reduceIte]
  exact ⟨_, rfl, rfl, rfl, ⟨rfl, Nat.zero_lt_succ _, rfl, Nat.zero_lt_succ _⟩, rfl, rfl, rfl, rfl⟩

theorem buildSofaRespMsg_other {status : Int16} {c : Command}
    (hpro : UInt8.ofInt (atoiHeader headers headerProtocolCode) ≠ protocolCodeV1)
    (h : buildSofaRespMsg headers status = .ok c) : c.reqIDV1 = none := by
  simp only [buildSofaRespMsg, sofaPropertyHeader, hpro, ↓reduceIte] at h
  split at h
  · cases h
  · split at h
    · cases h
      rfl
    · cases h

section Reply

variable {ρ τ : Type} (h₁ h₂ : BoltCommandHandler τ)
  (order : HeaderOrder) (pool : Option SlabPool)

/-- The request's headers with the status of a local reply. -/
def hijackHeaders (code : Int) (headers : HeaderMap) : HeaderMap :=
  headers.insert headerStatus (Strconv.itoa code)

theorem encodeSterilize_hijack (s : Sender) {code : Int} (hcode : code ∈ hijackCodes)
    (headers : HeaderMap) : encodeSterilize s (.map (hijackHeaders code headers))
      = match buildSofaRespMsg (sterilized s (hijackHeaders code headers)) (respStatusOf code) with
        | .ok c => .cmd c
        | .error _ => .map (sterilized s (hijackHeaders code headers)) := by
  obtain ⟨hatoi, hne⟩ := atoi_hijackCode hcode
  have hstatus : (withoutProxyHeaders s (hijackHeaders code headers)).lookup headerStatus
      = some (Strconv.itoa code) := by
    unfold withoutProxyHeaders hijackHeaders
    rw [GoMap.lookup_deleteAll, if_neg status_not_proxy]
    split
    · rw [Finmap.lookup_insert_of_ne _ (by decide), Finmap.lookup_insert]
    · rw [Finmap.lookup_insert]
  show (encodeSterilizeMap s (hijackHeaders code headers)).1 = _
  rw [sterilized_eq, encodeSterilizeMap_eq, hstatus]
  dsimp only
  rw [hatoi]
  exact if_neg hne

theorem lookup_sterilized_hijack {s : Sender} (hserver : s.direction = .serverStream)
    (code : Int) (headers : HeaderMap) :
    (sterilized s (hijackHeaders code headers)).lookup headerReqID = some s.requestID
      ∧ (sterilized s (hijackHeaders code headers)).lookup headerProtocolCode
        = headers.lookup headerProtocolCode := by
  constructor
  · rw [lookup_sterilized s _ reqID_not_proxy (by decide), if_pos ⟨hserver, rfl⟩]
  · rw [lookup_sterilized s _ (property_not_proxy (by simp [boltProperties])) (by decide),
      if_neg (fun h => absurd h.2 (by decide))]
    exact Finmap.lookup_insert_of_ne _ (by decide)

/-- `sendHijackReply` wrote exactly one frame, a response under `reqID` whose
status is the one of the code and not success. -/
def HijackDelivered (encode : Headers → EncodeResult) (code : Int) (d : DownStream ρ)
    (reqID : UInt32) : Prop :=
  ∃ d' frame, sendHijackReply encode code d = .ok d'
    ∧ d'.conn.written = d.conn.written ++ [frame]
    ∧ FrameKind.responseV1.At frame
    ∧ frame.length = FrameKind.responseV1.layout.frameLen frame
    ∧ frame.getD 1 0 = response
    ∧ ∀ now, (responseCommandV1 now frame).reqID = reqID
      ∧ (responseCommandV1 now frame).responseStatus = respStatusOf code
      ∧ (responseCommandV1 now frame).responseStatus ≠ responseStatusSuccess

theorem atoiHeader_congr {m m' : HeaderMap} {name : GoString}
    (h : m.lookup name = m'.lookup name) : atoiHeader m name = atoiHeader m' name := by
  unfold atoiHeader sofaPropertyHeader
  rw [h]

theorem encodeHeaders_response {c : BoltResponseCommand} (hproto : c.protocol = protocolCodeV1)
    (hsize : c.Sized []) :
    ∃ buf, (defaultProtocols h₁ h₂).encodeHeaders order pool (.cmd (.boltResponse c))
        = .ok (.ok buf, .cmd (.boltResponse c)) ∧ buf.bytes = responseBytes c := by
  obtain ⟨buf, hbuf⟩ := BoltV1Codec.doEncodeResponseCommand_ok pool c
    (by rw [hsize.class_eq]; omega)
  refine ⟨buf, ?_, BoltV1Codec.doEncodeResponseCommand_bytes hbuf⟩
  have hproto' : (Command.boltResponse c).getProtocol = protocolCodeV1 := hproto
  simp only [Protocols.encodeHeaders, hproto', defaultProtocols, ↓reduceIte, boltV1,
    BoltV1Codec.encodeHeaders, BoltV1Codec.encodeHeadersCmd, hbuf]
  rfl

variable {d : DownStream ρ} {code : Int}

variable {encode : Headers → EncodeResult} {d' : DownStream ρ}

theorem sendHijackReply_ok {a : StreamConnection.Appended ρ}
    (h : d.conn.appendHeaders encode d.responseSender
      (.map (hijackHeaders code d.downstreamReqHeaders)) true = .ok a) :
    ∃ d', sendHijackReply encode code d = .ok d' ∧ d'.conn = a.conn := by
  unfold hijackHeaders at h
  simp only [sendHijackReply, h]
  exact ⟨_, rfl, rfl⟩

theorem sendHijackReply_conn (h : sendHijackReply encode code d = .ok d') :
    ∃ a, d.conn.appendHeaders encode d.responseSender
        (.map (hijackHeaders code d.downstreamReqHeaders)) true = .ok a
      ∧ d'.conn = a.conn ∧ d'.responseSender = a.sender := by
  simp only [sendHijackReply, bind_eq_ok] at h
  obtain ⟨a, ha, h⟩ := h
  cases h
  exact ⟨a, ha, rfl, rfl⟩

/-- **With protocol 1 in the headers the reply is written.** -/
theorem hijack_written (hd : Unanswered d) (hcode : code ∈ hijackCodes)
    (hpro : UInt8.ofInt (atoiHeader d.downstreamReqHeaders headerProtocolCode) = protocolCodeV1) :
    ∃ d' c, sendHijackReply ((defaultProtocols h₁ h₂).encodeHeaders order pool) code d = .ok d'
      ∧ d'.conn.written = d.conn.written ++ [responseBytes c]
      ∧ c.protocol = protocolCodeV1 ∧ c.cmdType = response ∧ c.Sized []
      ∧ c.className = [] ∧ c.headerMap = []
      ∧ c.reqID = UInt32.ofInt (Strconv.atoi d.responseSender.requestID).1
      ∧ c.responseStatus = respStatusOf code := by
  obtain ⟨hid, hproto⟩ := lookup_sterilized_hijack hd.server code d.downstreamReqHeaders
  rw [← atoiHeader_congr hproto] at hpro
  obtain ⟨c, hbuild, hc⟩ := buildSofaRespMsg_v1 (respStatusOf code) hpro hid
  have hsend : encodeSterilize d.responseSender
      (.map (hijackHeaders code d.downstreamReqHeaders)) = .cmd (.boltResponse c) := by
    rw [encodeSterilize_hijack d.responseSender hcode, hbuild]
  obtain ⟨buf, hencode, hbytes⟩ := encodeHeaders_response h₁ h₂ order pool hc.1 hc.2.2.1
  obtain ⟨entry, hentry⟩ := Option.isSome_iff_exists.mp hd.active
  rw [← hsend] at hencode
  obtain ⟨d', hd', hwritten⟩ := sendHijackReply_ok (appendHeaders_eq d.conn true hencode)
  refine ⟨d', c, hd', ?_, hc⟩
  -- the stream is in the map, so its frame goes out, without data
  rw [hwritten]
  simp only [appended, StreamConnection.endStream, hentry, hd.server, ↓reduceIte, hd.noData,
    Option.getD_none, List.append_nil, hbytes]

/-- **Without it nothing is written.** -/
theorem hijack_lost (hd : Unanswered d) (hcode : code ∈ hijackCodes)
    (hpro : UInt8.ofInt (atoiHeader d.downstreamReqHeaders headerProtocolCode) ≠ protocolCodeV1)
    (h : sendHijackReply ((defaultProtocols h₁ h₂).encodeHeaders order pool) code d = .ok d') :
    d'.conn = d.conn := by
  obtain ⟨-, hproto⟩ := lookup_sterilized_hijack hd.server code d.downstreamReqHeaders
  rw [← atoiHeader_congr hproto] at hpro
  have hsend := encodeSterilize_hijack d.responseSender hcode d.downstreamReqHeaders
  obtain ⟨a, ha, hconn, -⟩ := sendHijackReply_conn h
  rw [hconn]
  obtain ⟨result, left, hencode, rfl⟩ := appendHeaders_ok ha
  cases result with
  | error e => rfl
  | ok buf =>
    -- no encoder makes a frame of what is left
    exfalso
    rw [hsend] at hencode
    cases hbuild : buildSofaRespMsg (sterilized d.responseSender
        (hijackHeaders code d.downstreamReqHeaders)) (respStatusOf code) with
    | ok c =>
      -- a reply was built, but not with a V1 type
      rw [hbuild] at hencode
      obtain ⟨henc, -⟩ := encodeHeaders_cmd_v1 (buildSofaRespMsg_ok hbuild).1 hencode
      grind [BoltV1Codec.encodeHeadersCmd_ok, buildSofaRespMsg_other]
    | error e =>
      -- the map itself goes to the encoder that its protocol entry names
      rw [hbuild] at hencode
      rcases encodeHeaders_map_cases hencode with ⟨e, he, -⟩ | ⟨v, hv, hv1, -⟩ | hv2
      · cases he
      · apply hpro
        unfold atoiHeader sofaPropertyHeader
        rw [hv]
        exact atoi_of_uint8_v1 hv1
      · have herr := (BoltV2Codec.encodeHeaders_map hv2).1
        cases herr

theorem response_frame {c : BoltResponseCommand} (hproto : c.protocol = protocolCodeV1)
    (htype : c.cmdType = response) (hsize : c.Sized []) (hclass : c.className = [])
    (hheader : c.headerMap = []) : FrameKind.responseV1.At (responseBytes c)
      ∧ (responseBytes c).length = FrameKind.responseV1.layout.frameLen (responseBytes c)
      ∧ (responseBytes c).getD 1 0 = response
      ∧ ∀ now, (responseCommandV1 now (responseBytes c)).reqID = c.reqID
        ∧ (responseCommandV1 now (responseBytes c)).responseStatus = c.responseStatus := by
  have hdecode := fun now => responseCommandV1_responseBytes now c [] hproto htype hsize
  simp only [List.append_nil] at hdecode
  have hlen : (responseBytes c).length = 20 := by
    unfold responseBytes writtenClass
    rw [hclass, hheader, ite_self, List.append_nil, List.append_nil]
    rfl
  have hcomplete : FrameKind.responseV1.layout.frameLen (responseBytes c)
      ≤ (responseBytes c).length := (hdecode 0).1.2
  have hfixed : 20 ≤ FrameKind.responseV1.layout.frameLen (responseBytes c) := by
    unfold Layout.frameLen
    show 20 ≤ 20 + _ + _ + _
    omega
  refine ⟨(hdecode 0).1, by omega, htype, fun now => ?_⟩
  rw [(hdecode now).2]
  exact ⟨rfl, rfl⟩

/-- **One local reply**, from any state in which the stream is unanswered. -/
theorem Unanswered.hijackDelivered_iff (hd : Unanswered d) (hcode : code ∈ hijackCodes)
    (reqID : UInt32) :
    HijackDelivered ((defaultProtocols h₁ h₂).encodeHeaders order pool) code d reqID
      ↔ UInt8.ofInt (atoiHeader d.downstreamReqHeaders headerProtocolCode) = protocolCodeV1
        ∧ UInt32.ofInt (Strconv.atoi d.responseSender.requestID).1 = reqID := by
  by_cases hpro :
      UInt8.ofInt (atoiHeader d.downstreamReqHeaders headerProtocolCode) = protocolCodeV1
  · obtain ⟨d', c, hsend, hwritten, hproto, htype, hsize, hclass, hheader, hid, hstatus⟩ :=
      hijack_written h₁ h₂ order pool hd hcode hpro
    obtain ⟨hat, hlen, hbyte, hcmd⟩ := response_frame hproto htype hsize hclass hheader
    constructor
    · -- the frame that was written is this one
      intro h
      obtain ⟨d₂, frame, hsend₂, hwritten₂, -, -, -, hcmd₂⟩ := h
      rw [hsend] at hsend₂
      cases hsend₂
      rw [hwritten] at hwritten₂
      cases List.append_cancel_left hwritten₂
      exact ⟨hpro, hid.symm.trans ((hcmd 0).1.symm.trans (hcmd₂ 0).1)⟩
    · intro h
      refine ⟨d', _, hsend, hwritten, hat, hlen, hbyte, fun now => ?_⟩
      rw [(hcmd now).1, (hcmd now).2, hstatus]
      exact ⟨hid.trans h.2, rfl, respStatusOf_ne_success code⟩
  · refine iff_of_false (fun h => ?_) (fun h => hpro h.1)
    obtain ⟨d', frame, hsend, hwritten, -⟩ := h
    rw [hijack_lost h₁ h₂ order pool hd hcode hpro hsend] at hwritten
    exact absurd (List.append_cancel_left ((List.append_nil _).trans hwritten))
      (List.cons_ne_nil _ _).symm

/-- **Local replies along the life of a request**: at any point before a
response has started, whatever has been sent upstream, the reply reaches the
client under its request id exactly when the header map still has a protocol
code that reads as 1 and the sender's request id reads as the client's. -/
theorem hijack_delivered_iff {b : List UInt8} {m : HeaderMap} {d₀ : DownStream ρ}
    {es : List LifeEvent} (hcode : code ∈ hijackCodes) (hrec : Received b m d₀)
    (hrun : Run LifeStep d₀ es d) :
    HijackDelivered ((defaultProtocols h₁ h₂).encodeHeaders order pool) code d
        (requestCommandV1 b).reqID
      ↔ UInt8.ofInt (atoiHeader d.downstreamReqHeaders headerProtocolCode) = protocolCodeV1
        ∧ UInt32.ofInt (Strconv.atoi d.responseSender.requestID).1 = (requestCommandV1 b).reqID :=
  (hrec.unanswered.run hrun).hijackDelivered_iff h₁ h₂ order pool hcode _

/-! ## §3. After an attempt. -/

theorem hijack_no_protocol (hd : Unanswered d) (hcode : code ∈ hijackCodes)
    (hnone : d.downstreamReqHeaders.lookup headerProtocolCode = none) :
    ∃ d', sendHijackReply ((defaultProtocols h₁ h₂).encodeHeaders order pool) code d = .ok d'
      ∧ d'.conn = d.conn := by
  obtain ⟨hid, hproto⟩ := lookup_sterilized_hijack hd.server code d.downstreamReqHeaders
  have hpro : UInt8.ofInt (atoiHeader d.downstreamReqHeaders headerProtocolCode)
      ≠ protocolCodeV1 := by
    unfold atoiHeader sofaPropertyHeader
    rw [hnone]
    decide
  have hbuild : buildSofaRespMsg (sterilized d.responseSender
      (hijackHeaders code d.downstreamReqHeaders)) (respStatusOf code)
        = .error ⟨unSupportedProCode⟩ := by
    simp only [buildSofaRespMsg, sofaPropertyHeader, hid, atoiHeader, hproto, hnone]
    rfl
  have hsend := encodeSterilize_hijack d.responseSender hcode d.downstreamReqHeaders
  simp only [hbuild] at hsend
  have hencode : (defaultProtocols h₁ h₂).encodeHeaders order pool
      (encodeSterilize d.responseSender (.map (hijackHeaders code d.downstreamReqHeaders)))
        = .ok (.error ⟨noProCodeInHeader⟩, .map (sterilized d.responseSender
          (hijackHeaders code d.downstreamReqHeaders))) := by
    rw [hsend]
    simp only [Protocols.encodeHeaders, sofaPropertyHeader, hproto, hnone]
  obtain ⟨d', hd', -⟩ := sendHijackReply_ok (appendHeaders_eq d.conn true hencode)
  exact ⟨d', hd', hijack_lost h₁ h₂ order pool hd hcode hpro hd'⟩

section Plain

variable {b : List UInt8} {m : HeaderMap} {l : GoMap.Listing m}

theorem received_plain (h : ForwardableRequest b m l) (conn : StreamConnection ρ)
    {serverCallbacks : Nat → ρ} (hcb : conn.serverCallbacks = some serverCallbacks) (id : UInt32)
    (hnew : conn.activeStreams.lookup (streamIDConv id) = none) :
    ∃ d : DownStream ρ, Received b m d ∧ d.downstreamReqHeaders = deliveredRequest b m id
      ∧ d.responseSender.streamID = streamIDConv id
      ∧ d.responseSender.requestID = streamIDConv (requestCommandV1 b).reqID := by
  have hheader := StreamConnection.onDecodeHeader_new
    (h.isSofaRequest (requestCommandV1 b).content) hcb hnew
  refine ⟨_, .intro hcb hheader (List.append_assoc _ _ _), rfl, rfl, ?_⟩
  show ((markEnd (requestCommandV1 b).content
    (m ∪ GoMap.insertAll ∅ (requestFields (requestCommandV1 b)))).lookup headerReqID).getD _ = _
  have hproperty : headerReqID ∈ boltProperties := by simp [boltProperties]
  rw [lookup_markEnd _ _ (property_not_proxy hproperty), lookup_fields m _ headerReqID
    (formatUint64 (requestCommandV1 b).reqID.toNat)
    (h.plain _ (List.mem_append_left _ hproperty)) (requestFields_nodup _)
    (by simp [requestFields, sofaPropertyHeader]), formatUint64_uint32]
  rfl

theorem atoiHeader_deliveredRequest (h : ForwardableRequest b m l) (id : UInt32) :
    UInt8.ofInt (atoiHeader (deliveredRequest b m id) headerProtocolCode) = protocolCodeV1 := by
  have hlookup : (deliveredRequest b m id).lookup headerProtocolCode
      = some (formatUint64 protocolCodeV1.toNat) := by
    have hproperty : headerProtocolCode ∈ boltProperties := by simp [boltProperties]
    have hproxy := property_not_proxy hproperty
    unfold deliveredRequest
    rw [lookup_decodeSterilize _ _ hproxy, Finmap.lookup_insert_of_ne _ (by decide),
      lookup_markEnd _ _ hproxy]
    exact lookup_fields m _ headerProtocolCode _ (h.plain _ (List.mem_append_left _ hproperty))
      (requestFields_nodup _) (by simp [requestFields, sofaPropertyHeader, requestCommandV1])
  unfold atoiHeader sofaPropertyHeader
  rw [hlookup]
  decide +kernel

/-- **An attempt to send a plain request takes every property out of its
map**: only the user's headers are left. -/
theorem upstreamAppendHeaders_plain (h : ForwardableRequest b m l) (id : UInt32)
    (client : StreamConnection ρ) (receiver : ρ) (endStream : Bool) :
    ∃ a, upstreamAppendHeaders ((defaultProtocols h₁ h₂).encodeHeaders order pool) client receiver
        (deliveredRequest b m id) endStream = .ok a
      ∧ a.headers = .map m ∧ a.sender.encodedHeaders ≠ none := by
  obtain ⟨buf, hencode, -⟩ := h.encodes h₁ h₂ order pool id (client.newStream
    (((deliveredRequest b m id).lookup headerStreamID).getD []) receiver).1 rfl
  exact ⟨_, appendHeaders_eq _ endStream hencode, rfl, Option.some_ne_none buf⟩

/-- **So no local reply reaches its client any more.** -/
theorem hijack_lost_after_forward (h : ForwardableRequest b m l) {d₀ d₁ : DownStream ρ}
    {id : UInt32} (hrec : Received b m d₀)
    (hheaders : d₀.downstreamReqHeaders = deliveredRequest b m id)
    (hstep : LifeStep d₀ .forward d₁) (hcode : code ∈ hijackCodes) :
    ∃ d₂, sendHijackReply ((defaultProtocols h₁ h₂).encodeHeaders order pool) code d₁ = .ok d₂
      ∧ d₂.conn = d₁.conn := by
  have hleft : d₁.downstreamReqHeaders = m := by
    cases hstep with
    | @forward κ τ' g₁ g₂ order' pool' client receiver endStream a headers hsent hmap =>
      obtain ⟨a', ha', hm, -⟩ := upstreamAppendHeaders_plain g₁ g₂ order' pool' h id client
        receiver endStream
      grind
  refine hijack_no_protocol h₁ h₂ order pool (hstep.unanswered hrec.unanswered) hcode ?_
  rw [hleft]
  exact h.plain.lookup (by simp [boltProperties])

end Plain

end Reply

section Example

/-- The encoder of a connection, with some iteration order and no pool. -/
noncomputable def someEncode : Headers → EncodeResult :=
  (StreamConnection.protocols (ρ := Nat) GoMap.someOrder []).encodeHeaders GoMap.someOrder none

/-- Another stream comes, and goes. -/
def withOther (conn : StreamConnection Nat) : StreamConnection Nat :=
  { conn with activeStreams :=
      conn.activeStreams.insert (streamIDConv 10) ⟨streamIDConv 10, [], .serverStream, 1⟩ }

def withoutOther (conn : StreamConnection Nat) : StreamConnection Nat :=
  { conn with activeStreams := conn.activeStreams.erase (streamIDConv 10) }

/-- Before anything is sent, a time-out is reported to the client, whatever
other streams do. -/
theorem hijack_delivered_one_header : ∃ d d' : DownStream Nat,
    Received oneHeaderRequest oneHeader d ∧ Run LifeStep d [.others, .others] d'
      ∧ HijackDelivered someEncode timeoutExceptionCode d' 7 := by
  obtain ⟨d, hrec, hheaders, hstream, hid⟩ := received_plain oneHeaderRequest_forwardable
    (newStreamConnection (some (fun n : Nat => n))) rfl 9 rfl
  have hother : d.responseSender.streamID ≠ streamIDConv 10 := by
    rw [hstream]
    decide
  have hcomes : LifeStep d .others { d with conn := withOther d.conn } :=
    .others (Finmap.lookup_insert_of_ne _ hother)
  have hgoes : LifeStep { d with conn := withOther d.conn } .others
      { d with conn := withoutOther (withOther d.conn) } :=
    .others (Finmap.lookup_erase_ne hother)
  have hrun := (Run.nil.snoc hcomes).snoc hgoes
  refine ⟨d, _, hrec, hrun,
    (hijack_delivered_iff _ _ GoMap.someOrder none (by decide) hrec hrun).mpr ⟨?_, ?_⟩⟩
  · rw [hheaders]
    exact atoiHeader_deliveredRequest oneHeaderRequest_forwardable 9
  · rw [hid, atoi_streamIDConv]

/-- **A time-out after the request was sent is not reported**: one attempt has
taken the protocol code, `sendHijackReply` returns, and nothing is written. -/
theorem timeout_not_reported : ∃ d₀ d₁ d₂ : DownStream Nat, Received oneHeaderRequest oneHeader d₀
      ∧ LifeStep d₀ .forward d₁
      ∧ sendHijackReply someEncode timeoutExceptionCode d₁ = .ok d₂
      ∧ d₂.conn.written = d₁.conn.written := by
  obtain ⟨d₀, hrec, hheaders, -⟩ := received_plain oneHeaderRequest_forwardable
    (newStreamConnection (some (fun n : Nat => n))) rfl 9 rfl
  obtain ⟨a, hsent, hleft, -⟩ := upstreamAppendHeaders_plain
    (newBoltCommandHandler (StreamConnection.filter (ρ := Nat)) GoMap.someOrder [])
    (newBoltCommandHandlerV2 StreamConnection.filter GoMap.someOrder []) GoMap.someOrder none
    oneHeaderRequest_forwardable 9 (newStreamConnection (none : Option (Nat → Nat))) 0 false
  rw [← hheaders] at hsent
  have hstep : LifeStep d₀ .forward { d₀ with downstreamReqHeaders := oneHeader } :=
    .forward hsent hleft
  have hcode : timeoutExceptionCode ∈ hijackCodes := by decide
  obtain ⟨d₂, hsend, hconn⟩ := hijack_lost_after_forward _ _ GoMap.someOrder none
    oneHeaderRequest_forwardable hrec hheaders hstep hcode
  exact ⟨d₀, _, d₂, hrec, hstep, hsend, by rw [hconn]⟩

end Example

end Mosn.Proxy
