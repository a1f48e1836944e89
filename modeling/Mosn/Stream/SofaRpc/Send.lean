/-
  Mosn.Stream.SofaRpc.Send
  **WHAT A STREAM SENDS, WHATEVER HEADERS IT IS GIVEN.**

  `AppendHeaders` sterilizes the headers and encodes what comes out, either
  the map or, for a status other than success, a response command built from
  it.  Both ways the request id of the frame is the one in the map.
-/
import Mosn.Protocol.SofaRpc.EncodeHeaders
import Mosn.Stream.SofaRpc.Stream

namespace Mosn.Stream.SofaRpc

open Mosn.Lib Mosn.Types Mosn.Network Mosn.Protocol Mosn.Protocol.SofaRpc

/-! ## §1. Sterilizing. -/

/-- The map after `encodeSterilize`. -/
def sterilized (s : Sender) (headers : HeaderMap) : HeaderMap := (encodeSterilizeMap s headers).2

/-- The map before the status is looked at. -/
def withoutProxyHeaders (s : Sender) (headers : HeaderMap) : HeaderMap :=
  GoMap.deleteAll
    (if s.direction = .serverStream then headers.insert headerReqID s.requestID else headers)
    proxyHeaders

theorem property_not_proxy {k : GoString} (hk : k ∈ boltProperties) : k ∉ proxyHeaders :=
  fun hproxy => property_not_internal k hk (proxyHeaders_internal k hproxy)

theorem reqID_not_proxy : headerReqID ∉ proxyHeaders :=
  property_not_proxy (by simp [boltProperties])

/-- **`encodeSterilize` on a map**: the status goes, and a status other than
success becomes a response, if one can be built from the map that is left. -/
theorem encodeSterilizeMap_eq (s : Sender) (headers : HeaderMap) :
    let left := (withoutProxyHeaders s headers).erase headerStatus
    encodeSterilizeMap s headers
      = (match (withoutProxyHeaders s headers).lookup headerStatus with
        | some status =>
          if (Strconv.atoi status).1 = successCode then .map left
          else
            match buildSofaRespMsg left (respStatusOf (Strconv.atoi status).1) with
            | .ok c => .cmd c
            | .error _ => .map left
        | none => .map left, left) := by
  intro left
  have hdef : encodeSterilizeMap s headers
      = match (withoutProxyHeaders s headers).lookup headerStatus with
        | some status =>
          if (Strconv.atoi status).1 ≠ successCode then
            match buildSofaRespMsg left (respStatusOf (Strconv.atoi status).1) with
            | .ok c => (.cmd c, left)
            | .error _ => (.map left, left)
          else (.map left, left)
        | none => (.map (withoutProxyHeaders s headers), withoutProxyHeaders s headers) := rfl
  rw [hdef]
  cases hstatus : (withoutProxyHeaders s headers).lookup headerStatus with
  | none =>
    dsimp only
    rw [show left = withoutProxyHeaders s headers from GoMap.erase_of_lookup_none hstatus]
  | some status =>
    dsimp only
    rw [ite_not]
    split
    · rfl
    · cases buildSofaRespMsg left (respStatusOf (Strconv.atoi status).1) <;> rfl

variable (s : Sender)

theorem sterilized_eq (headers : HeaderMap) :
    sterilized s headers = (withoutProxyHeaders s headers).erase headerStatus :=
  congrArg Prod.snd (encodeSterilizeMap_eq s headers)

theorem encodeSterilize_none {headers : HeaderMap} (h : headers.lookup headerStatus = none) :
    encodeSterilize s (.map headers) = .map (withoutProxyHeaders s headers) := by
  have hstatus : (withoutProxyHeaders s headers).lookup headerStatus = none := by
    unfold withoutProxyHeaders
    rw [GoMap.lookup_deleteAll, if_neg status_not_proxy]
    split
    · rw [Finmap.lookup_insert_of_ne _ (by decide), h]
    · exact h
  show (encodeSterilizeMap s headers).1 = _
  rw [encodeSterilizeMap_eq, hstatus, GoMap.erase_of_lookup_none hstatus]

theorem sterilized_cases (headers : HeaderMap) :
    encodeSterilize s (.map headers) = .map (sterilized s headers)
      ∨ ∃ status c, (withoutProxyHeaders s headers).lookup headerStatus ≠ none
        ∧ encodeSterilize s (.map headers) = .cmd c
        ∧ buildSofaRespMsg (sterilized s headers) status = .ok c := by
  show (encodeSterilizeMap s headers).1 = _
    ∨ ∃ status c, _ ∧ (encodeSterilizeMap s headers).1 = .cmd c ∧ _
  rw [sterilized_eq, encodeSterilizeMap_eq]
  dsimp only
  split
  next hstatus =>
    split
    · exact Or.inl rfl
    · split
      next c hbuild =>
        exact Or.inr ⟨_, c, by rw [hstatus]; exact Option.some_ne_none _, rfl, hbuild⟩
      next => exact Or.inl rfl
  next => exact Or.inl rfl

theorem lookup_sterilized (headers : HeaderMap) {k : GoString}
    (hk : k ∉ proxyHeaders) (hstatus : k ≠ headerStatus) : (sterilized s headers).lookup k
      = if s.direction = .serverStream ∧ k = headerReqID then some s.requestID
        else headers.lookup k := by
  rw [sterilized_eq, Finmap.lookup_erase_ne hstatus]
  unfold withoutProxyHeaders
  grind [GoMap.lookup_deleteAll, GoMap.lookup_insert_ite]

theorem lookup_sterilized_proxy (headers : HeaderMap) {k : GoString}
    (hk : k ∈ proxyHeaders) : (sterilized s headers).lookup k = none := by
  rw [sterilized_eq, GoMap.lookup_erase_ite, withoutProxyHeaders, GoMap.lookup_deleteAll,
    if_pos hk, ite_self]

theorem lookup_sterilized_status (headers : HeaderMap) :
    (sterilized s headers).lookup headerStatus = none := by
  rw [sterilized_eq, Finmap.lookup_erase]

/-! ## §2. The request id of what is sent. -/

theorem atoi_streamIDConv (q : UInt32) : UInt32.ofInt (Strconv.atoi (streamIDConv q)).1 = q := by
  have hlt := q.toNat_lt
  unfold streamIDConv
  rw [Strconv.atoi_formatUint _ (by omega)]
  apply UInt32.toNat_inj.mp
  rw [UInt32.ofInt, UInt32.toNat_ofNat']
  omega

theorem convertPropertyValue_streamIDConv (q : UInt32) :
    convertPropertyValue (streamIDConv q) .uint32 = .uint32 q := by
  unfold streamIDConv
  simp only [convertPropertyValue, Strconv.parseUint_formatUint q.toNat 32 q.toNat_lt,
    UInt32.ofNat_toNat]

theorem buildSofaRespMsg_ok {headers : HeaderMap} {status : Int16} {c : Command}
    (h : buildSofaRespMsg headers status = .ok c) : c.getProtocol = protocolCodeV1
      ∧ (∀ q, c.reqIDV1 = some q →
        ∃ v, headers.lookup headerReqID = some v ∧ q = UInt32.ofInt (Strconv.atoi v).1)
      ∧ ∀ r, c ≠ .boltRequest r := by
  cases hlookup : headers.lookup headerReqID with
  | none =>
    simp only [buildSofaRespMsg, sofaPropertyHeader, hlookup] at h
    cases h
  | some v =>
    simp only [buildSofaRespMsg, sofaPropertyHeader, hlookup] at h
    split at h
    · cases h
      refine ⟨rfl, fun q hq => ⟨v, rfl, ?_⟩, fun _ => Command.noConfusion⟩
      cases hq
      rfl
    · split at h
      · cases h
        refine ⟨rfl, fun q hq => ?_, fun _ => Command.noConfusion⟩
        cases hq
      · cases h

section Encode

variable {τ : Type} {h₁ h₂ : BoltCommandHandler τ} {order : HeaderOrder}
  {pool : Option SlabPool} {left : Headers}

variable {r : Except GoError IoBuffer} {s : Sender} {headers : HeaderMap}

theorem encodeHeaders_cmd_v1 {c : Command} (hproto : c.getProtocol = protocolCodeV1)
    (h : (defaultProtocols h₁ h₂).encodeHeaders order pool (.cmd c) = .ok (r, left)) :
    BoltV1Codec.encodeHeadersCmd pool (some c) = .ok r ∧ left = .cmd c := by
  simp only [Protocols.encodeHeaders, hproto, defaultProtocols, ↓reduceIte, boltV1,
    BoltV1Codec.encodeHeaders, bind_eq_ok, pure, Except.pure, Except.ok.injEq,
    Prod.mk.injEq] at h
  obtain ⟨r', hr, heq, hleft⟩ := h
  cases heq
  exact ⟨hr, hleft.symm⟩

/-- **The frame carries the request id in the sterilized map.** -/
theorem sent_reqID {buf : IoBuffer} {q : UInt32}
    (hid : ∀ v, (sterilized s headers).lookup headerReqID = some v → v = streamIDConv q)
    (h : (defaultProtocols h₁ h₂).encodeHeaders order pool (encodeSterilize s (.map headers))
      = .ok (.ok buf, left)) :
    slice buf.bytes 5 9 = putUint32 q := by
  rcases sterilized_cases s headers with hmap | ⟨status, c, -, hcmd, hbuild⟩
  · grind [encodeHeaders_map_ok, convertPropertyValue_streamIDConv, GoValue.uint32.injEq]
  · rw [hcmd] at h
    obtain ⟨hproto, hreq, -⟩ := buildSofaRespMsg_ok hbuild
    obtain ⟨henc, -⟩ := encodeHeaders_cmd_v1 hproto h
    grind [BoltV1Codec.encodeHeadersCmd_ok, atoi_streamIDConv]

/-- What the caller's map has become: only the request id may have been set,
everything else is as before or gone. -/
theorem sent_left
    (h : (defaultProtocols h₁ h₂).encodeHeaders order pool (encodeSterilize s (.map headers))
      = .ok (r, left)) :
    (∃ m', left = .map m' ∧ Shrinks (sterilized s headers) m') ∨ ∃ c, left = .cmd c := by
  rcases sterilized_cases s headers with hmap | ⟨status, c, -, hcmd, hbuild⟩
  · rw [hmap] at h
    exact Or.inl (encodeHeaders_map_left h)
  · rw [hcmd] at h
    exact Or.inr ⟨c, (encodeHeaders_cmd_v1 (buildSofaRespMsg_ok hbuild).1 h).2⟩

end Encode

/-! ## §3. `AppendHeaders`. -/

section AppendHeaders

variable {ρ τ : Type} {h₁ h₂ : BoltCommandHandler τ} {order : HeaderOrder}
  {pool : Option SlabPool} {conn : StreamConnection ρ} {s : Sender} {headers : HeaderMap}
  {isEnd : Bool} {a : StreamConnection.Appended ρ} {encode : Headers → EncodeResult}
  {hs left : Headers} {result : Except GoError IoBuffer}

/-- What is left of the headers: a map that was encoded as a map is the
caller's own. -/
def leftOf (s : Sender) : Headers → Headers → Headers
  | .map _, .map m => .map m
  | .map m, _ => .map (sterilized s m)
  | h, _ => h

/-- **What `AppendHeaders` leaves behind** once the encoder has returned: an
error leaves the connection alone, encoded headers are written at once if they
end the stream. -/
def appended (conn : StreamConnection ρ) (s : Sender) (hs : Headers) (isEnd : Bool)
    (result : Except GoError IoBuffer) (left : Headers) : StreamConnection.Appended ρ where
  err := match result with
    | .error e => some e
    | .ok _ => none
  sender := { s with encodedHeaders := result.toOption }
  conn := match result with
    | .error _ => conn
    | .ok buf => if isEnd then conn.endStream { s with encodedHeaders := some buf } else conn
  headers := leftOf s hs left

theorem appendHeaders_eq (conn : StreamConnection ρ) (isEnd : Bool)
    (henc : encode (encodeSterilize s hs) = .ok (result, left)) :
    conn.appendHeaders encode s hs isEnd = .ok (appended conn s hs isEnd result left) := by
  simp only [StreamConnection.appendHeaders, henc]
  cases result <;> rfl

theorem appendHeaders_ok (h : conn.appendHeaders encode s hs isEnd = .ok a) :
    ∃ result left, encode (encodeSterilize s hs) = .ok (result, left)
      ∧ a = appended conn s hs isEnd result left := by
  obtain ⟨⟨result, left⟩, henc, -⟩ := bind_eq_ok.mp h
  exact ⟨result, left, henc, Except.ok.inj (h.symm.trans (appendHeaders_eq conn isEnd henc))⟩

theorem appendHeaders_headers
    (h : conn.appendHeaders ((defaultProtocols h₁ h₂).encodeHeaders order pool) s (.map headers)
      isEnd = .ok a) :
    ∃ m', a.headers = .map m' ∧ Shrinks (sterilized s headers) m' := by
  obtain ⟨result, left, henc, rfl⟩ := appendHeaders_ok h
  rcases sent_left henc with ⟨m', rfl, hshrinks⟩ | ⟨c, rfl⟩
  · exact ⟨m', rfl, hshrinks⟩
  · exact ⟨_, rfl, Shrinks.refl _⟩

end AppendHeaders

/-! ## §4. What sending does to a connection. -/

/-- `conn'` is `conn` after `frames` were written; streams may have gone, and
nothing was received. -/
structure Sent {ρ : Type} (conn conn' : StreamConnection ρ) (frames : List (List UInt8)) :
    Prop where
  serverCallbacks : conn'.serverCallbacks = conn.serverCallbacks
  detected : conn'.detected = conn.detected
  callbacks : conn'.callbacks = conn.callbacks
  active : ∀ k e, conn'.activeStreams.lookup k = some e → conn.activeStreams.lookup k = some e
  written : conn'.written = conn.written ++ frames

/-- Whatever the sender has encoded is under the request id `q`. -/
def Sender.Carries (s : Sender) (q : UInt32) : Prop :=
  ∀ buf, s.encodedHeaders = some buf → slice buf.bytes 5 9 = putUint32 q

/-- The frames are what the sender has encoded under `q`. -/
def Sender.Sends (s : Sender) (q : UInt32) (frames : List (List UInt8)) : Prop :=
  ∀ f ∈ frames, s.encodedHeaders ≠ none ∧ slice f 5 9 = putUint32 q

theorem Sender.sends_nil (s : Sender) (q : UInt32) : s.Sends q [] :=
  fun _ hf => absurd hf List.not_mem_nil

theorem slice_append_reqID {l : List UInt8} {q : UInt32} (h : slice l 5 9 = putUint32 q)
    (data : List UInt8) : slice (l ++ data) 5 9 = putUint32 q := by
  have hlen : (slice l 5 9).length = 4 := by rw [h, length_putUint32]
  have hle : 9 ≤ l.length := by
    unfold slice at hlen
    rw [List.length_take, List.length_drop] at hlen
    omega
  rw [slice_append_left l data 5 9 hle, h]

section Sending

variable {ρ : Type} {conn : StreamConnection ρ} {s : Sender} {q : UInt32}

theorem Sent.refl (conn : StreamConnection ρ) : Sent conn conn [] :=
  ⟨rfl, rfl, rfl, fun _ _ h => h, (List.append_nil _).symm⟩

theorem endStream_sent (conn : StreamConnection ρ) (hs : s.Carries q) :
    ∃ frames, Sent conn (conn.endStream s) frames ∧ s.Sends q frames := by
  -- a server stream leaves the map, whether or not there was a frame
  have hleave : ∀ conn' frames, Sent conn conn' frames → Sent conn
      (if s.direction = .serverStream then
        { conn' with activeStreams := conn'.activeStreams.erase s.streamID } else conn')
      frames := by
    intro conn' frames h
    split
    · refine ⟨h.serverCallbacks, h.detected, h.callbacks, fun k e hk => h.active k e ?_, h.written⟩
      rw [GoMap.lookup_erase_ite] at hk
      split at hk
      · cases hk
      · exact hk
    · exact h
  have hnothing : ∃ frames, Sent conn
      (if s.direction = .serverStream then
        { conn with activeStreams := conn.activeStreams.erase s.streamID } else conn) frames
      ∧ s.Sends q frames :=
    ⟨[], hleave conn [] (Sent.refl conn), s.sends_nil q⟩
  unfold StreamConnection.endStream
  cases hbuf : s.encodedHeaders with
  | none => exact hnothing
  | some buf =>
    cases hactive : conn.activeStreams.lookup s.streamID with
    | none => exact hnothing
    | some stream =>
      refine ⟨[buf.bytes ++ s.encodedData.getD []],
        hleave _ _ ⟨rfl, rfl, rfl, fun _ _ h => h, rfl⟩, fun f hf => ?_⟩
      rw [List.mem_singleton.mp hf, hbuf]
      exact ⟨Option.some_ne_none buf, slice_append_reqID (hs buf hbuf) _⟩

/-- **`AppendHeaders` under one request id**: what is encoded, and what is
written, carries the request id of the sterilized map. -/
theorem appendHeaders_sent {τ : Type} {h₁ h₂ : BoltCommandHandler τ}
    {order : HeaderOrder} {pool : Option SlabPool} {headers : HeaderMap}
    {isEnd : Bool} {a : StreamConnection.Appended ρ}
    (hid : ∀ v, (sterilized s headers).lookup headerReqID = some v → v = streamIDConv q)
    (h : conn.appendHeaders ((defaultProtocols h₁ h₂).encodeHeaders order pool) s (.map headers)
      isEnd = .ok a) :
    (∃ encoded, a.sender = { s with encodedHeaders := encoded }) ∧ a.sender.Carries q
      ∧ ∃ frames, Sent conn a.conn frames ∧ a.sender.Sends q frames := by
  obtain ⟨result, left, henc, rfl⟩ := appendHeaders_ok h
  cases result with
  | error e => exact ⟨⟨none, rfl⟩, nofun, [], Sent.refl conn, Sender.sends_nil _ q⟩
  | ok buf =>
    have hcarries : Sender.Carries { s with encodedHeaders := some buf } q := by
      intro buf' hbuf'
      cases hbuf'
      exact sent_reqID hid henc
    refine ⟨⟨some buf, rfl⟩, hcarries, ?_⟩
    cases isEnd with
    | true => exact endStream_sent conn hcarries
    | false => exact ⟨[], Sent.refl conn, Sender.sends_nil _ q⟩

theorem appendData_sent (conn : StreamConnection ρ) (hs : s.Carries q) (data : List UInt8)
    (isEnd : Bool) : (conn.appendData s data isEnd).1.Carries q
      ∧ ∃ frames, Sent conn (conn.appendData s data isEnd).2 frames ∧ s.Sends q frames := by
  have hcarries : Sender.Carries { s with encodedData := some data } q := hs
  refine ⟨hcarries, ?_⟩
  unfold StreamConnection.appendData
  cases isEnd with
  | true => exact endStream_sent conn hcarries
  | false => exact ⟨[], Sent.refl conn, s.sends_nil q⟩

end Sending

end Mosn.Stream.SofaRpc
