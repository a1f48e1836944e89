/-
  Mosn.Proxy.Resend
  **A REQUEST THAT IS SENT AGAIN** (`doRetry` of `pkg/proxy/downstream.go`,
  `pkg/proxy/upstream.go`, `Clone` of `pkg/network/buffer/iobuffer.go`).

  The first attempt gives the request to a stream of a client connection piece
  by piece.  `doRetry` makes another upstream request from what is still there:

    • the header map, from which encoding has taken the protocol fields,
    • the trailers,

  and works out the end of the stream anew.  An `Attempt` records what was
  given to the stream, the headers as the frame they became.

    • `doRetry_same_iff` — when the two records agree: never for a request.
-/
import Mosn.Stream.SofaRpc.Forward

namespace Mosn.Proxy.Resend

open Mosn.Lib Mosn.Types Mosn.Network Mosn.Protocol Mosn.Protocol.SofaRpc Mosn.Stream.SofaRpc

/-! ## §1. Attempts. -/

/-- `Clone`: the copy of the bytes is not what is returned. -/
def clone (b : IoBuffer) : Except Panic IoBuffer := IoBuffer.newIoBuffer b.len

theorem clone_bytes {b b' : IoBuffer} (h : clone b = .ok b') : b'.bytes = [] :=
  IoBuffer.bytes_newIoBuffer h

theorem clone_ok (b : IoBuffer) : ∃ b', clone b = .ok b' :=
  IoBuffer.newIoBuffer_ok (Int.natCast_nonneg b.len)

/-- What a stream to the upstream was given.  Headers stand as the frame that
was encoded from them, if one was. -/
inductive Part where
  | headers (frame : Option (List UInt8)) (endStream : Bool)
  | data (bytes : List UInt8) (endStream : Bool)
  | trailers (trailers : HeaderMap)
  deriving DecidableEq

/-- A request that has been received: the header map, the data as it came, the
trailers. -/
structure Request where
  headers : HeaderMap
  data : List (List UInt8)
  trailers : Option HeaderMap

/-- An upstream request: the stream's sender and its connection, the header
map as it is now, the frame of the headers, and everything that was sent. -/
structure Attempt (ρ : Type) where
  sender : Sender
  conn : StreamConnection ρ
  downstreamReqHeaders : HeaderMap
  frame : Option (List UInt8)
  parts : List Part

namespace Attempt

variable {ρ : Type}

/-- `upstreamRequest.appendHeaders`, and `OnReady`, which the pool calls with
the new stream. -/
def appendHeaders (encode : Headers → EncodeResult) (conn : StreamConnection ρ)
    (responseDecoder : ρ) (headers : HeaderMap) (endStream : Bool) : Except Panic (Attempt ρ) := do
  let streamID := (headers.lookup headerStreamID).getD []
  let (sender, conn) := conn.newStream streamID responseDecoder
  let a ← conn.appendHeaders encode sender (.map headers) endStream
  let frame := a.sender.encodedHeaders.map IoBuffer.bytes
  let left :=
    match a.headers with
    | .map m => m
    | _ => headers
  return ⟨a.sender, a.conn, left, frame, [.headers frame endStream]⟩

/-- `upstreamRequest.appendData`. -/
def appendData (a : Attempt ρ) (data : List UInt8) (endStream : Bool) : Attempt ρ :=
  let (sender, conn) := a.conn.appendData a.sender data endStream
  { a with sender := sender, conn := conn, parts := a.parts ++ [.data data endStream] }

/-- `upstreamRequest.appendTrailers`: trailers are not sent, only the end. -/
def appendTrailers (a : Attempt ρ) (trailers : HeaderMap) : Attempt ρ :=
  { a with conn := a.conn.endStream a.sender, parts := a.parts ++ [.trailers trailers] }

/-- The data of a request as it comes; `last` says that nothing follows. -/
def receiveData (a : Attempt ρ) (last : Bool) : List (List UInt8) → Attempt ρ
  | [] => a
  | [data] => a.appendData data last
  | data :: rest => (a.appendData data false).receiveData last rest

/-- The trailers of a request, if it has any. -/
def endRequest (a : Attempt ρ) : Option HeaderMap → Attempt ρ
  | some trailers => a.appendTrailers trailers
  | none => a

/-- In `doRetry`, a copy of the buffered data is sent. -/
def resendData (a : Attempt ρ) (last : Bool) : Option IoBuffer → Except Panic (Attempt ρ)
  | some buf => do
      let copied ← clone buf
      return a.appendData copied.bytes last
  | none => .ok a

end Attempt

section Sending

variable {ρ : Type} (encode : Headers → EncodeResult) (conn : StreamConnection ρ)
  (responseDecoder : ρ)

/-- The first attempt, when the whole request has been received. -/
def firstAttempt (r : Request) : Except Panic (Attempt ρ) := do
  let a ← Attempt.appendHeaders encode conn responseDecoder r.headers
    (r.data.isEmpty && r.trailers.isNone)
  return (a.receiveData r.trailers.isNone r.data).endRequest r.trailers

/-- `doRetry`, with a connection pool. -/
def doRetry (downstreamReqHeaders : HeaderMap) (downstreamReqDataBuf : Option IoBuffer)
    (downstreamReqTrailers : Option HeaderMap) : Except Panic (Attempt ρ) := do
  let a ← Attempt.appendHeaders encode conn responseDecoder downstreamReqHeaders
    (downstreamReqDataBuf.isSome && downstreamReqTrailers.isSome)
  let a ← a.resendData downstreamReqTrailers.isNone downstreamReqDataBuf
  return a.endRequest downstreamReqTrailers

end Sending

/-! ## §2. What an attempt has sent. -/

/-- The parts that data is sent as. -/
def dataParts (last : Bool) : List (List UInt8) → List Part
  | [] => []
  | [data] => [.data data last]
  | data :: rest => .data data false :: dataParts last rest

def trailersParts (trailers : Option HeaderMap) : List Part := trailers.toList.map .trailers

theorem parts_receiveData {ρ : Type} (last : Bool) (data : List (List UInt8)) :
    ∀ a : Attempt ρ, (a.receiveData last data).parts = a.parts ++ dataParts last data
      ∧ (a.receiveData last data).frame = a.frame
      ∧ (a.receiveData last data).downstreamReqHeaders = a.downstreamReqHeaders := by
  induction data with
  | nil => exact fun a => ⟨(List.append_nil _).symm, rfl, rfl⟩
  | cons d rest ih =>
    intro a
    cases rest with
    | nil => exact ⟨rfl, rfl, rfl⟩
    | cons d' rest =>
      obtain ⟨hparts, hframe, hheaders⟩ := ih (a.appendData d false)
      refine ⟨hparts.trans ?_, hframe, hheaders⟩
      exact List.append_assoc a.parts [.data d false] _

theorem dataParts_eq_empty_iff (last : Bool) (data : List (List UInt8)) :
    [.data [] last] = dataParts last data ↔ data = [[]] := by
  constructor
  · intro h
    cases data with
    | nil => cases h
    | cons d rest =>
      cases rest with
      | nil => cases h; rfl
      | cons d' rest =>
        -- two pieces at least
        have hlen := congrArg List.length h
        cases rest <;> simp [dataParts] at hlen
  · rintro rfl
    rfl

section Frame

variable {ρ : Type} {encode : Headers → EncodeResult} {conn : StreamConnection ρ}
  {responseDecoder : ρ}

/-- A client stream. -/
def clientSender (headers : HeaderMap) : Sender :=
  ⟨(headers.lookup headerStreamID).getD [], (headers.lookup headerStreamID).getD [],
    .clientStream, none, none⟩

/-- The frame that a header map is encoded to, if it is. -/
def frameOf (encode : Headers → EncodeResult) (headers : HeaderMap) : Option (List UInt8) :=
  match encode (encodeSterilize (clientSender headers) (.map headers)) with
  | .ok (.ok buf, _) => some buf.bytes
  | _ => none

variable {headers : HeaderMap} {left : Headers} {a : Attempt ρ} {result : Except GoError IoBuffer}
  {r : Request}

theorem frameOf_eq_some {f : List UInt8} (h : frameOf encode headers = some f) :
    ∃ buf left, encode (encodeSterilize (clientSender headers) (.map headers))
      = .ok (.ok buf, left) ∧ buf.bytes = f := by
  unfold frameOf at h
  grind

theorem frameOf_of_encodes {buf : IoBuffer}
    (henc : encode (encodeSterilize (clientSender headers) (.map headers)) = .ok (.ok buf, left)) :
    frameOf encode headers = some buf.bytes := by
  simp only [frameOf, henc]

theorem appendHeaders_frame {endStream : Bool}
    (h : Attempt.appendHeaders encode conn responseDecoder headers endStream = .ok a) :
    a.frame = frameOf encode headers ∧ a.parts = [.headers a.frame endStream] := by
  obtain ⟨b, happend, hend⟩ := bind_eq_ok.mp h
  cases hend
  obtain ⟨result, left, henc, rfl⟩ := appendHeaders_ok happend
  refine ⟨?_, rfl⟩
  unfold frameOf
  rw [show encode (encodeSterilize (clientSender headers) (.map headers)) = _ from henc]
  cases result <;> rfl

theorem appendHeaders_returns (conn : StreamConnection ρ) (responseDecoder : ρ) (endStream : Bool)
    (henc : encode (encodeSterilize (clientSender headers) (.map headers)) = .ok (result, left)) :
    ∃ a, Attempt.appendHeaders encode conn responseDecoder headers endStream = .ok a
      ∧ leftOf (clientSender headers) (.map headers) left = .map a.downstreamReqHeaders := by
  refine ⟨_, bind_eq_ok.mpr ⟨_, appendHeaders_eq _ endStream henc, rfl⟩, ?_⟩
  cases left <;> rfl

theorem parts_endRequest (a : Attempt ρ) (trailers : Option HeaderMap) :
    (a.endRequest trailers).parts = a.parts ++ trailersParts trailers
      ∧ (a.endRequest trailers).frame = a.frame
      ∧ (a.endRequest trailers).downstreamReqHeaders = a.downstreamReqHeaders := by
  cases trailers with
  | none => exact ⟨(List.append_nil _).symm, rfl, rfl⟩
  | some trailers => exact ⟨rfl, rfl, rfl⟩

theorem parts_resendData {b : Attempt ρ} {last : Bool} {buf : Option IoBuffer}
    (h : a.resendData last buf = .ok b) :
    b.parts = a.parts ++ if buf.isSome then [.data [] last] else [] := by
  cases buf with
  | none =>
    cases h
    exact (List.append_nil _).symm
  | some buf =>
    obtain ⟨copied, hclone, hpure⟩ := bind_eq_ok.mp h
    cases hpure
    simp only [Attempt.appendData, clone_bytes hclone, Option.isSome_some, if_true]

theorem firstAttempt_parts (h : firstAttempt encode conn responseDecoder r = .ok a) :
    a.frame = frameOf encode r.headers
      ∧ a.parts = .headers a.frame (r.data.isEmpty && r.trailers.isNone)
          :: (dataParts r.trailers.isNone r.data ++ trailersParts r.trailers) := by
  obtain ⟨b, hheaders, hrest⟩ := bind_eq_ok.mp h
  cases hrest
  grind [appendHeaders_frame, parts_receiveData, parts_endRequest, List.append_assoc]

theorem doRetry_parts {buf : Option IoBuffer} {trailers : Option HeaderMap}
    (h : doRetry encode conn responseDecoder headers buf trailers = .ok a) :
    a.parts = .headers (frameOf encode headers) (buf.isSome && trailers.isSome)
      :: ((if buf.isSome then [.data [] trailers.isNone] else []) ++ trailersParts trailers) := by
  obtain ⟨b, hheaders, hrest⟩ := bind_eq_ok.mp h
  obtain ⟨c, hdata, hend⟩ := bind_eq_ok.mp hrest
  cases hend
  obtain ⟨hframe, hparts⟩ := appendHeaders_frame hheaders
  rw [(parts_endRequest c trailers).1, parts_resendData hdata, hparts, hframe, List.append_assoc]
  rfl

theorem doRetry_returns (conn : StreamConnection ρ) (responseDecoder : ρ) (buf : Option IoBuffer)
    (trailers : Option HeaderMap)
    (henc : encode (encodeSterilize (clientSender headers) (.map headers)) = .ok (result, left)) :
    ∃ a, doRetry encode conn responseDecoder headers buf trailers = .ok a := by
  obtain ⟨a, ha, -⟩ :=
    appendHeaders_returns conn responseDecoder (buf.isSome && trailers.isSome) henc
  have hdata : ∃ b, a.resendData trailers.isNone buf = .ok b := by
    cases buf with
    | none => exact ⟨a, rfl⟩
    | some buf =>
      obtain ⟨copied, hclone⟩ := clone_ok buf
      exact ⟨_, bind_eq_ok.mpr ⟨copied, hclone, rfl⟩⟩
  obtain ⟨b, hb⟩ := hdata
  exact ⟨_, bind_eq_ok.mpr ⟨a, ha, bind_eq_ok.mpr ⟨b, hb, rfl⟩⟩⟩

theorem parts_eq_iff {frame frame' : Option (List UInt8)} {buf : Option IoBuffer}
    (hbuf : buf.isSome = !r.data.isEmpty) : (Part.headers frame' (buf.isSome && r.trailers.isSome)
        :: ((if buf.isSome then [.data [] r.trailers.isNone] else []) ++ trailersParts r.trailers)
      = .headers frame (r.data.isEmpty && r.trailers.isNone)
        :: (dataParts r.trailers.isNone r.data ++ trailersParts r.trailers))
    ↔ frame' = frame ∧ (r.data = [[]] ∧ r.trailers = none ∨ r.data = [] ∧ r.trailers ≠ none) := by
  rw [List.cons_eq_cons, List.append_left_inj, Part.headers.injEq, hbuf]
  cases hdata : r.data with
  | nil =>
    cases r.trailers with
    | none => simp
    | some trailers => simp [dataParts]
  | cons d rest =>
    have hempty := dataParts_eq_empty_iff true (d :: rest)
    cases r.trailers with
    | none => simpa using fun _ => hempty
    | some trailers => simp

end Frame

/-! ## §3. The headers of a request. -/

section Headers

variable {τ : Type} {h₁ h₂ : BoltCommandHandler τ} {order : HeaderOrder}
  {pool : Option SlabPool}

theorem protocolCode_not_proxy : headerProtocolCode ∉ proxyHeaders :=
  property_not_proxy (by simp [boltProperties])

theorem cmdType_not_proxy : headerCmdType ∉ proxyHeaders :=
  property_not_proxy (by simp [boltProperties])

variable {m : HeaderMap} {buf : IoBuffer} {left : Headers}

theorem lookup_clientSender (headers : HeaderMap) {k : GoString}
    (hk : k ∉ proxyHeaders) (hstatus : k ≠ headerStatus) :
    (sterilized (clientSender headers) m).lookup k = m.lookup k := by
  rw [lookup_sterilized _ _ hk hstatus]
  rfl

theorem encodes_none (h : m.lookup headerProtocolCode = none) :
    (defaultProtocols h₁ h₂).encodeHeaders order pool (encodeSterilize (clientSender m) (.map m))
      = .ok (.error ⟨noProCodeInHeader⟩, .map (sterilized (clientSender m) m)) := by
  have hcode : (sterilized (clientSender m) m).lookup headerProtocolCode = none :=
    (lookup_clientSender m protocolCode_not_proxy (by decide)).trans h
  rcases sterilized_cases (clientSender m) m with hmap | ⟨status, c, -, hcmd, hbuild⟩
  · simp only [hmap, Protocols.encodeHeaders, sofaPropertyHeader, hcode]
  · -- no response can be built either
    simp only [buildSofaRespMsg, atoiHeader, sofaPropertyHeader, hcode] at hbuild
    split at hbuild
    · cases hbuild
    · cases hbuild

theorem frameOf_eq_none (h : m.lookup headerProtocolCode = none) :
    frameOf ((defaultProtocols h₁ h₂).encodeHeaders order pool) m = none := by
  simp only [frameOf, encodes_none h]

theorem requestBytes_cmdType (c : BoltRequestCommand) : (requestBytes c).getD 1 0 = c.cmdType := by
  unfold requestBytes
  rw [List.append_assoc]
  exact (requestFixed_fields c _).2.1

theorem responseBytes_cmdType (c : BoltResponseCommand) :
    (responseBytes c).getD 1 0 = c.cmdType := by
  unfold responseBytes
  rw [List.append_assoc]
  exact (responseFixed_fields c _).2.1

theorem isSofaRequest_cmdType (h : isSofaRequest m = true) :
    convertPropertyValue ((m.lookup headerCmdType).getD []) .uint8 = .uint8 request := by
  by_contra hne
  simp only [isSofaRequest, sofaPropertyHeader, hne, decide_false, ite_self] at h
  cases h

theorem frame_cmdType
    (h : (defaultProtocols h₁ h₂).encodeHeaders order pool (.map m) = .ok (.ok buf, left)) :
    BoltV1Codec.valueOf m headerCmdType
      = .uint8 (buf.bytes.getD 1 0) := by
  obtain ⟨rest, -, -, ⟨c, hc, hbytes⟩ | ⟨c, hc, hbytes⟩⟩ := encodeHeaders_map_frame h
  · rw [hbytes, requestBytes_cmdType]
    exact hc.cmdType
  · rw [hbytes, responseBytes_cmdType]
    exact hc.cmdType

theorem built_cmdType {status : Int16} {c : Command} (hbuild : buildSofaRespMsg m status = .ok c)
    (h : (defaultProtocols h₁ h₂).encodeHeaders order pool (.cmd c) = .ok (.ok buf, left)) :
    buf.bytes.getD 1 0 = response := by
  obtain ⟨hproto, -, hnot⟩ := buildSofaRespMsg_ok hbuild
  obtain ⟨henc, -⟩ := encodeHeaders_cmd_v1 hproto h
  rcases BoltV1Codec.encodeHeadersCmd_bytes henc with ⟨c', hc', -⟩ | ⟨c', hc', hbytes⟩
  · cases hc'
    exact absurd rfl (hnot c')
  · cases hc'
    rw [hbytes, responseBytes_cmdType]
    simp only [buildSofaRespMsg] at hbuild
    grind

/-- **The headers are not the same.**  Either the map itself was encoded, and
its protocol fields are gone; or it had a status and a response was sent in its
place, and now the request is. -/
theorem frameOf_left_ne {ρ : Type} {conn : StreamConnection ρ} {responseDecoder : ρ}
    {endStream : Bool} {a : Attempt ρ} {f : List UInt8}
    (order' : HeaderOrder) (pool' : Option SlabPool)
    (hreq : isSofaRequest m = true)
    (h : Attempt.appendHeaders ((defaultProtocols h₁ h₂).encodeHeaders order pool) conn
      responseDecoder m endStream = .ok a) (hf : a.frame = some f) :
    frameOf ((defaultProtocols h₁ h₂).encodeHeaders order' pool') a.downstreamReqHeaders
      ≠ some f := by
  have hframe := (appendHeaders_frame h).1.symm.trans hf
  obtain ⟨buf, left, henc, rfl⟩ := frameOf_eq_some hframe
  obtain ⟨a', ha', hleft⟩ := appendHeaders_returns conn responseDecoder endStream henc
  cases h.symm.trans ha'
  rcases sterilized_cases (clientSender m) m with hmap | ⟨status, c, -, hcmd, hbuild⟩
  · rw [hmap] at henc
    obtain ⟨rest, rfl, -, hof⟩ := encodeHeaders_map_frame henc
    have hgone : rest.lookup headerProtocolCode = none := by
      rcases hof with ⟨c, hc, -⟩ | ⟨c, hc, -⟩
      · rw [hc.rest_eq, GoMap.lookup_deleteAll, if_pos (by simp [requestProperties])]
      · rw [hc.rest_eq, GoMap.lookup_deleteAll, if_pos (by simp [responseProperties])]
    rw [← Headers.map.inj hleft, frameOf_eq_none hgone]
    intro h
    cases h
  · rw [hcmd] at henc
    have hsent := built_cmdType hbuild henc
    obtain rfl : left = .cmd c := (encodeHeaders_cmd_v1 (buildSofaRespMsg_ok hbuild).1 henc).2
    rw [← Headers.map.inj hleft]
    intro hsame
    obtain ⟨buf', left', henc', hbytes⟩ := frameOf_eq_some hsame
    -- there is no status any more, so the map itself is encoded
    have hmap : encodeSterilize (clientSender (sterilized (clientSender m) m))
        (.map (sterilized (clientSender m) m))
          = .map (withoutProxyHeaders (clientSender (sterilized (clientSender m) m))
            (sterilized (clientSender m) m)) :=
      encodeSterilize_none _ (lookup_sterilized_status _ _)
    rw [hmap] at henc'
    have htype := frame_cmdType henc'
    rw [hbytes, hsent] at htype
    have hlookup : (withoutProxyHeaders (clientSender (sterilized (clientSender m) m))
        (sterilized (clientSender m) m)).lookup headerCmdType = m.lookup headerCmdType := by
      show (GoMap.deleteAll (sterilized (clientSender m) m) proxyHeaders).lookup headerCmdType = _
      rw [GoMap.lookup_deleteAll, if_neg cmdType_not_proxy]
      exact lookup_clientSender m cmdType_not_proxy (by decide)
    have hrequest := isSofaRequest_cmdType hreq
    simp only [BoltV1Codec.valueOf, propertyValue, hlookup] at htype
    cases hv : m.lookup headerCmdType with
    | none =>
      rw [hv] at htype
      cases htype
    | some v =>
      rw [hv] at htype hrequest
      have hboth : GoValue.uint8 request = .uint8 response := hrequest.symm.trans htype
      exact absurd hboth (by decide)

/-- **A retry and the first attempt.**  They send the same exactly when the
map that is left is encoded to the same frame, and there is an empty body and
no trailers, or there are trailers and no body.  For a request that is never
so. -/
theorem doRetry_same_iff {ρ : Type} (conn conn' : StreamConnection ρ)
    (responseDecoder responseDecoder' : ρ) (order order' : HeaderOrder)
    (pool pool' : Option SlabPool) {r : Request} {a : Attempt ρ} {buf : Option IoBuffer}
    (hfirst : firstAttempt ((defaultProtocols h₁ h₂).encodeHeaders order pool) conn
      responseDecoder r = .ok a)
    (hsent : a.frame ≠ none) (hbuf : buf.isSome = !r.data.isEmpty) :
    ((∃ a', doRetry ((defaultProtocols h₁ h₂).encodeHeaders order' pool') conn' responseDecoder'
          a.downstreamReqHeaders buf r.trailers = .ok a' ∧ a'.parts = a.parts)
      ↔ frameOf ((defaultProtocols h₁ h₂).encodeHeaders order' pool') a.downstreamReqHeaders
          = a.frame
        ∧ (r.data = [[]] ∧ r.trailers = none ∨ r.data = [] ∧ r.trailers ≠ none))
    ∧ (isSofaRequest r.headers = true →
        ¬ ∃ a', doRetry ((defaultProtocols h₁ h₂).encodeHeaders order' pool') conn'
          responseDecoder' a.downstreamReqHeaders buf r.trailers = .ok a'
          ∧ a'.parts = a.parts) := by
  obtain ⟨f, hf⟩ := Option.ne_none_iff_exists'.mp hsent
  obtain ⟨-, hparts⟩ := firstAttempt_parts hfirst
  have hiff : (∃ a', doRetry ((defaultProtocols h₁ h₂).encodeHeaders order' pool') conn'
        responseDecoder' a.downstreamReqHeaders buf r.trailers = .ok a' ∧ a'.parts = a.parts)
      ↔ frameOf ((defaultProtocols h₁ h₂).encodeHeaders order' pool') a.downstreamReqHeaders
          = a.frame
        ∧ (r.data = [[]] ∧ r.trailers = none ∨ r.data = [] ∧ r.trailers ≠ none) := by
    constructor
    · rintro ⟨a', hretry, hsame⟩
      rw [doRetry_parts hretry, hparts] at hsame
      exact (parts_eq_iff hbuf).mp hsame
    · rintro ⟨hframe, hends⟩
      obtain ⟨_, _, henc, -⟩ := frameOf_eq_some (hframe.trans hf)
      obtain ⟨a', hretry⟩ := doRetry_returns conn' responseDecoder' buf r.trailers henc
      refine ⟨a', hretry, ?_⟩
      rw [doRetry_parts hretry, hparts]
      exact (parts_eq_iff hbuf).mpr ⟨hframe, hends⟩
  refine ⟨hiff, fun hreq hsame => ?_⟩
  obtain ⟨hframe, -⟩ := hiff.mp hsame
  -- the map that is left is what `appendHeaders` has left
  obtain ⟨b, hheaders, hrest⟩ := bind_eq_ok.mp hfirst
  cases hrest
  grind [parts_receiveData, parts_endRequest, frameOf_left_ne]

end Headers

/-! ## §4. One request. -/

theorem isSofaRequest_congr {m m' : HeaderMap}
    (hcode : m'.lookup headerProtocolCode = m.lookup headerProtocolCode)
    (htype : m'.lookup headerCmdType = m.lookup headerCmdType) :
    isSofaRequest m' = isSofaRequest m := by
  unfold isSofaRequest sofaPropertyHeader
  rw [hcode, htype]

theorem deliveredRequest_isSofaRequest {b : List UInt8} {m : HeaderMap} {l : GoMap.Listing m}
    (h : ForwardableRequest b m l) (id : UInt32) :
    isSofaRequest (deliveredRequest b m id) = true := by
  rw [← h.isSofaRequest (requestCommandV1 b).content]
  unfold deliveredRequest
  apply isSofaRequest_congr
  · rw [lookup_decodeSterilize _ _ protocolCode_not_proxy,
      Finmap.lookup_insert_of_ne _ (by decide)]
  · rw [lookup_decodeSterilize _ _ cmdType_not_proxy, Finmap.lookup_insert_of_ne _ (by decide)]

/-- The request of one header and one byte, as the proxy has it. -/
def oneByteRequest : Request := ⟨deliveredRequest oneHeaderRequest oneHeader 9, [[5]], none⟩

/-- The encoder of both connections. -/
noncomputable def oneEncoder : Headers → EncodeResult :=
  (defaultProtocols
    (newBoltCommandHandler (σ := StreamConnection Nat) StreamConnection.filter
      GoMap.someOrder [])
    (newBoltCommandHandlerV2 StreamConnection.filter GoMap.someOrder [])).encodeHeaders
      GoMap.someOrder none

/-- A connection to the upstream. -/
def upstreamConn : StreamConnection Nat := newStreamConnection none

theorem oneByteRequest_first : ∃ a f, firstAttempt oneEncoder upstreamConn 0 oneByteRequest = .ok a
      ∧ a.frame = some f ∧ a.downstreamReqHeaders = oneHeader := by
  obtain ⟨buf, hencodes, -⟩ := oneHeaderRequest_forwardable.encodes _ _ GoMap.someOrder none 9
    (clientSender oneByteRequest.headers) rfl
  have henc : oneEncoder (encodeSterilize (clientSender oneByteRequest.headers)
      (.map oneByteRequest.headers)) = .ok (.ok buf, .map oneHeader) := hencodes
  obtain ⟨a, ha, hleft⟩ := appendHeaders_returns upstreamConn 0 false henc
  have hframe : a.frame = some buf.bytes :=
    (appendHeaders_frame ha).1.trans (frameOf_of_encodes henc)
  exact ⟨_, buf.bytes, bind_eq_ok.mpr ⟨a, ha, rfl⟩, hframe, (Headers.map.inj hleft).symm⟩

theorem oneByteRequest_retry : ∃ a, firstAttempt oneEncoder upstreamConn 0 oneByteRequest = .ok a
      ∧ ¬ ∃ a', doRetry oneEncoder upstreamConn 0 a.downstreamReqHeaders
        (some (IoBuffer.newIoBufferBytes [5])) none = .ok a' ∧ a'.parts = a.parts := by
  obtain ⟨a, f, hfirst, hframe, -⟩ := oneByteRequest_first
  refine ⟨a, hfirst, ?_⟩
  exact (doRetry_same_iff upstreamConn upstreamConn 0 0 GoMap.someOrder GoMap.someOrder none none
    hfirst (by rw [hframe]; exact nofun) rfl).2
      (deliveredRequest_isSofaRequest oneHeaderRequest_forwardable 9)

/-- **What becomes of it**: the headers are no frame any more, and the body is
empty. -/
theorem oneByteRequest_not_resent :
    ∃ a f a', firstAttempt oneEncoder upstreamConn 0 oneByteRequest = .ok a
      ∧ a.parts = [.headers (some f) false, .data [5] true]
      ∧ doRetry oneEncoder upstreamConn 0 a.downstreamReqHeaders
          (some (IoBuffer.newIoBufferBytes [5])) none = .ok a'
      ∧ a'.parts = [.headers none false, .data [] true] := by
  obtain ⟨a, f, hfirst, hframe, hleft⟩ := oneByteRequest_first
  have hgone : oneHeader.lookup headerProtocolCode = none := by decide
  obtain ⟨a', hretry⟩ := doRetry_returns upstreamConn 0 (some (IoBuffer.newIoBufferBytes [5])) none
    (show oneEncoder (encodeSterilize (clientSender oneHeader) (.map oneHeader)) = _ from
      encodes_none hgone)
  refine ⟨a, f, a', hfirst, ?_, by rw [hleft]; exact hretry, ?_⟩
  · rw [(firstAttempt_parts hfirst).2, hframe]
    rfl
  · rw [doRetry_parts hretry, show frameOf oneEncoder oneHeader = none from frameOf_eq_none hgone]
    rfl

end Mosn.Proxy.Resend
