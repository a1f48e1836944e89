/-
  Mosn.Proxy.Invariant
  **WHERE THE TWO IDS OF A STREAM CAN BE.**

  A request id is translated twice: the client's own becomes the generated
  stream id on the way out, and is put back on the way in.

  Connections change by `Sent`, by a response (`response_client`) or by a
  request (`request_server`), streams by their senders; `step_inv` puts these
  together for one step, `run_inv` for a run.  `run_extends` says what a later
  state keeps of an earlier one.
-/
import Mosn.Proxy.System

namespace Mosn.Proxy

open Mosn.Lib Mosn.Types Mosn.Network Mosn.Protocol Mosn.Protocol.SofaRpc Mosn.Stream.SofaRpc

attribute [local grind] ProxyState.setClient Stream.SofaRpc.Sender.Sends

/-! ## §1. Ids. -/

theorem birth_eq_of_id_eq {base : UInt32} {o o' : Origin} (issued : Nat)
    (hid : o.id base = o'.id base) (hle : o.birth ≤ issued) (hle' : o'.birth ≤ issued)
    (hlt : issued < o.birth + 2 ^ 32) (hlt' : issued < o'.birth + 2 ^ 32) : o.birth = o'.birth := by
  have hadd : UInt32.ofNat o.birth = UInt32.ofNat o'.birth := by
    have h := congrArg (· - base) hid
    simpa [Origin.id, UInt32.add_comm base] using h
  have hnat := congrArg UInt32.toNat hadd
  rw [UInt32.toNat_ofNat', UInt32.toNat_ofNat'] at hnat
  omega

theorem streamIDConv_injective {p q : UInt32} (h : streamIDConv p = streamIDConv q) : p = q :=
  UInt32.toNat_inj.mp (Strconv.formatUint_injective h)

theorem streamIDConv_ne_nil (q : UInt32) : streamIDConv q ≠ [] := Strconv.formatUint_ne_nil _

/-- The internal stream id and the request id of a request's headers, as far
as they are still there, are the generated id. -/
structure OwnHeaders (streamID : GoString) (h : HeaderMap) : Prop where
  streamID_eq : ∀ v, h.lookup headerStreamID = some v → v = streamID
  reqID_eq : ∀ v, h.lookup headerReqID = some v → v = streamID

theorem OwnHeaders.shrinks {streamID : GoString} {h h' : HeaderMap} (hown : OwnHeaders streamID h)
    (hs : Shrinks h h') : OwnHeaders streamID h' :=
  ⟨fun v hv => hown.streamID_eq v (hs _ _ hv), fun v hv => hown.reqID_eq v (hs _ _ hv)⟩

theorem OwnHeaders.sterilized {streamID : GoString} {h : HeaderMap}
    (hown : OwnHeaders streamID h) {s : Sender} (hclient : s.direction = .clientStream) :
    OwnHeaders streamID (sterilized s h) := by
  constructor
  · intro v hv
    rw [lookup_sterilized_proxy s h (by simp [proxyHeaders])] at hv
    cases hv
  · intro v hv
    rw [lookup_sterilized s h reqID_not_proxy (by decide), hclient, if_neg (by simp)] at hv
    exact hown.reqID_eq v hv

theorem ownHeaders_decodeSterilize (streamID : GoString) (h : HeaderMap) :
    OwnHeaders streamID (decodeSterilize streamID (h.insert headerReqID streamID)).2 := by
  constructor
  · intro v hv
    rw [lookup_decodeSterilize_streamID] at hv
    exact (Option.some.inj hv).symm
  · intro v hv
    rw [lookup_decodeSterilize _ _ reqID_not_proxy, Finmap.lookup_insert] at hv
    exact (Option.some.inj hv).symm

theorem update_eq_some {α β : Type} [DecidableEq α] {f : α → Option β} {a a' : α} {b b' : β}
    (h : Function.update f a (some b) a' = some b') :
    (a' = a ∧ b' = b) ∨ (a' ≠ a ∧ f a' = some b') := by
  by_cases heq : a' = a
  · grind
  · rw [Function.update_of_ne heq] at h
    exact Or.inr ⟨heq, h⟩

/-! ## §2. The invariant. -/

section Invariant

variable {ι κ : Type}

/-- A server connection: its map files streams of its own under their
generated ids, its log delivers a request's headers to that request's stream,
and its frames carry request ids that came in on it. -/
@[local grind cases]
structure ServerOk (base : UInt32) (origin : ι × Nat → Option Origin) (issued : Nat) (i : ι)
    (conn : StreamConnection (ι × Nat)) : Prop where
  callbacks : conn.serverCallbacks = some (fun n => (i, n))
  entries : ∀ k e, conn.activeStreams.lookup k = some e →
    ∃ o, e.decoder.1 = i ∧ origin e.decoder = some o ∧ k = streamIDConv (o.id base)
      ∧ issued < o.birth + 2 ^ 32
  log : ∀ r h isEnd, .receiveHeaders r h isEnd ∈ conn.callbacks →
    ∃ o, origin r = some o ∧ OwnHeaders (streamIDConv (o.id base)) h
  written : ∀ f ∈ conn.written, ∃ n o, origin (i, n) = some o ∧ slice f 5 9 = putUint32 o.reqID

/-- A client connection: its map files streams under their generated ids, or,
when a request is sent again without one, under the empty id; its frames
carry the ids of requests sent on it. -/
@[local grind cases]
structure ClientOk (base : UInt32) (origin : ι × Nat → Option Origin) (issued : Nat)
    (forwarded : List (Forwarded ι κ)) (c : κ) (conn : StreamConnection (ι × Nat)) : Prop where
  callbacks : conn.serverCallbacks = none
  entries : ∀ k e, conn.activeStreams.lookup k = some e →
    ∃ o, origin e.decoder = some o ∧ (k = [] ∨ k = streamIDConv (o.id base))
      ∧ issued < o.birth + 2 ^ 32
  written : ∀ f ∈ conn.written, ∃ w ∈ forwarded, w.client = c ∧ slice f 5 9 = putUint32 w.reqID

/-- A stream: its sender answers under the client's request id, its headers
and its request go out under the generated one. -/
@[local grind cases]
structure StreamOk (base : UInt32) (forwarded : List (Forwarded ι κ)) (r : ι × Nat) (o : Origin)
    (a : ProxyStream κ) : Prop where
  server : a.responseSender.direction = .serverStream
  streamID : a.responseSender.streamID = streamIDConv (o.id base)
  requestID : a.responseSender.requestID = streamIDConv o.reqID
  encoded : a.responseSender.Carries o.reqID
  headers : ∀ h, a.downstreamReqHeaders = some h → OwnHeaders (streamIDConv (o.id base)) h
  upstream : ∀ c sender, a.upstreamRequest = some (c, sender) →
    sender.Carries (o.id base)
      ∧ (sender.encodedHeaders ≠ none → ⟨c, r, o.id base⟩ ∈ forwarded)

@[local grind cases]
structure ProxyInv (base : UInt32) (s : ProxyState ι κ) : Prop where
  generator : s.generator.counter = base + UInt32.ofNat s.issued
  server : ∀ i, ServerOk base s.origin s.issued i (s.servers i)
  client : ∀ c, ClientOk base s.origin s.issued s.forwarded c (s.clients c)
  stream : ∀ r a, s.streams r = some a →
    ∃ o, s.origin r = some o ∧ StreamOk base s.forwarded r o a
  started : ∀ r o, s.origin r = some o → ∃ a, s.streams r = some a
  unborn : ∀ i n, (s.servers i).detected ≤ n → s.origin (i, n) = none
  birth_le : ∀ r o, s.origin r = some o → o.birth ≤ s.issued
  birth_inj : ∀ r r' o o', s.origin r = some o → s.origin r' = some o' → o.birth = o'.birth →
    r = r'
  forwarded : ∀ w ∈ s.forwarded, ∃ o, s.origin w.receiver = some o ∧ w.reqID = o.id base

theorem initial_inv (base : UInt32) : ProxyInv base (ProxyState.initial base : ProxyState ι κ) where
  generator := (UInt32.add_zero base).symm
  server := fun i => ⟨rfl, fun k e h => (by cases h), fun r h e hm => absurd hm List.not_mem_nil,
    fun f hf => absurd hf List.not_mem_nil⟩
  client := fun c => ⟨rfl, fun k e h => (by cases h), fun f hf => absurd hf List.not_mem_nil⟩
  stream := fun r a h => nomatch h
  started := fun r o h => nomatch h
  unborn := fun i n _ => rfl
  birth_le := fun r o h => nomatch h
  birth_inj := fun r r' o o' h => nomatch h
  forwarded := fun w hw => absurd hw List.not_mem_nil

/-! ## §3. What sending and receiving keep. -/

variable {base : UInt32} {origin : ι × Nat → Option Origin} {issued : Nat}
  {forwarded : List (Forwarded ι κ)}

variable {conn conn' : StreamConnection (ι × Nat)} {frames : List (List UInt8)} {c : κ}

theorem ServerOk.sent {i : ι} (h : ServerOk base origin issued i conn) (hs : Sent conn conn' frames)
    (hf : ∀ f ∈ frames, ∃ n o, origin (i, n) = some o ∧ slice f 5 9 = putUint32 o.reqID) :
    ServerOk base origin issued i conn' := by
  refine ⟨hs.serverCallbacks.trans h.callbacks, fun k e hk => h.entries k e (hs.active k e hk),
    fun r m e hm => h.log r m e (hs.callbacks ▸ hm), fun f hmem => ?_⟩
  rw [hs.written] at hmem
  grind

theorem ClientOk.sent (h : ClientOk base origin issued forwarded c conn)
    (hs : Sent conn conn' frames)
    (hf : ∀ f ∈ frames, ∃ w ∈ forwarded, w.client = c ∧ slice f 5 9 = putUint32 w.reqID) :
    ClientOk base origin issued forwarded c conn' := by
  refine ⟨hs.serverCallbacks.trans h.callbacks, fun k e hk => h.entries k e (hs.active k e hk),
    fun f hmem => ?_⟩
  rw [hs.written] at hmem
  grind

theorem ClientOk.forward
    (h : ClientOk base origin issued forwarded c conn) (more : List (Forwarded ι κ)) :
    ClientOk base origin issued (forwarded ++ more) c conn := by
  refine ⟨h.callbacks, h.entries, fun f hf => ?_⟩
  grind

theorem StreamOk.forward {r : ι × Nat} {o : Origin} {a : ProxyStream κ}
    (h : StreamOk base forwarded r o a) (more : List (Forwarded ι κ)) :
    StreamOk base (forwarded ++ more) r o a := by
  refine ⟨h.server, h.streamID, h.requestID, h.encoded, h.headers, fun c sender hu => ?_⟩
  grind

variable {s : ProxyState ι κ}

variable {conn : StreamConnection (ι × Nat)} {c : κ} {r : ι × Nat} {o : Origin} {a : ProxyStream κ}
  {headers : HeaderMap} {order : HeaderOrder} {pool : Option SlabPool}
  {isEnd : Bool} {out : StreamConnection.Appended (ι × Nat)} {sender : Sender}

theorem ProxyInv.setServer [DecidableEq ι] (h : ProxyInv base s) {i : ι}
    (hconn : ServerOk base s.origin s.issued i conn)
    (hdetected : conn.detected = (s.servers i).detected) : ProxyInv base (s.setServer i conn) := by
  refine ⟨h.generator, ?_, h.client, h.stream, h.started, ?_, h.birth_le, h.birth_inj,
    h.forwarded⟩
  · exact (Function.forall_update_iff s.servers (ServerOk base s.origin s.issued)).mpr
      ⟨hconn, fun j _ => h.server j⟩
  · refine (Function.forall_update_iff s.servers
      (fun j conn => ∀ n, conn.detected ≤ n → s.origin (j, n) = none)).mpr
        ⟨?_, fun j _ => h.unborn j⟩
    intro n hn
    exact h.unborn i n (hdetected ▸ hn)

theorem ProxyInv.setClient [DecidableEq κ] (h : ProxyInv base s)
    (hconn : ClientOk base s.origin s.issued s.forwarded c conn) :
    ProxyInv base (s.setClient c conn) := by
  refine ⟨h.generator, h.server, ?_, h.stream, h.started, h.unborn, h.birth_le, h.birth_inj,
    h.forwarded⟩
  exact (Function.forall_update_iff s.clients (ClientOk base s.origin s.issued s.forwarded)).mpr
    ⟨hconn, fun d _ => h.client d⟩

theorem ProxyInv.setStream [DecidableEq ι] (h : ProxyInv base s)
    (ho : s.origin r = some o) (ha : StreamOk base s.forwarded r o a) :
    ProxyInv base (s.setStream r a) := by
  refine ⟨h.generator, h.server, h.client, fun r' a' hr => ?_, fun r' o' hr => ?_, h.unborn,
    h.birth_le, h.birth_inj, h.forwarded⟩
  · rcases update_eq_some hr with ⟨heq, haeq⟩ | ⟨-, hr⟩
    · rw [heq, haeq]
      exact ⟨o, ho, ha⟩
    · exact h.stream r' a' hr
  · show ∃ a', Function.update s.streams r (some a) r' = some a'
    by_cases heq : r' = r
    · subst heq
      exact ⟨a, Function.update_self _ _ _⟩
    · rw [Function.update_of_ne heq]
      exact h.started r' o' hr

theorem ProxyInv.forward (h : ProxyInv base s) (more : List (Forwarded ι κ))
    (hmore : ∀ w ∈ more, ∃ o, s.origin w.receiver = some o ∧ w.reqID = o.id base) :
    ProxyInv base { s with forwarded := s.forwarded ++ more } := by
  refine ⟨h.generator, h.server, fun c => (h.client c).forward more, fun r a hr => ?_, h.started,
    h.unborn, h.birth_le, h.birth_inj, fun w hw => ?_⟩
  · obtain ⟨o, ho, ha⟩ := h.stream r a hr
    exact ⟨o, ho, ha.forward more⟩
  · grind

/-! ## §4. One step. -/

/-- **An attempt to send a request**: the stream is registered on the client
connection, and what is encoded goes out under its generated id. -/
theorem upstreamAppendHeaders_sent {client : StreamConnection (ι × Nat)}
    {left : HeaderMap} {q : UInt32} {τ : Type} {h₁ h₂ : BoltCommandHandler τ}
    (hown : OwnHeaders (streamIDConv q) headers)
    (h : upstreamAppendHeaders ((defaultProtocols h₁ h₂).encodeHeaders order pool) client r
      headers isEnd = .ok out) (hleft : out.headers = .map left) :
    OwnHeaders (streamIDConv q) left ∧ out.sender.Carries q
      ∧ ∃ k frames, (k = [] ∨ k = streamIDConv q) ∧ Sent (client.newStream k r).2 out.conn frames
        ∧ out.sender.Sends q frames := by
  unfold upstreamAppendHeaders at h
  obtain ⟨k, hk⟩ : ∃ k, k = (headers.lookup headerStreamID).getD [] := ⟨_, rfl⟩
  rw [← hk] at h
  have hsterile := hown.sterilized (s := (client.newStream k r).1) rfl
  obtain ⟨-, hcarries, frames, hsent, hsends⟩ := appendHeaders_sent hsterile.reqID_eq h
  obtain ⟨m', hm', hshrinks⟩ := appendHeaders_headers h
  rw [hleft] at hm'
  cases hm'
  refine ⟨hsterile.shrinks hshrinks, hcarries, k, frames, ?_, hsent, hsends⟩
  cases hid : headers.lookup headerStreamID with
  | none =>
    rw [hid] at hk
    exact Or.inl hk
  | some v =>
    rw [hid] at hk
    exact Or.inr (hk.trans (hown.streamID_eq v hid))

theorem ClientOk.newStream
    {k : GoString} (h : ClientOk base origin issued forwarded c conn) (ho : origin r = some o)
    (hk : k = [] ∨ k = streamIDConv (o.id base)) (hlt : issued < o.birth + 2 ^ 32) :
    ClientOk base origin issued forwarded c (conn.newStream k r).2 := by
  refine ⟨h.callbacks, fun k' e he => ?_, h.written⟩
  change (conn.activeStreams.insert k _).lookup k' = some e at he
  rw [GoMap.lookup_insert_ite] at he
  grind

theorem ProxyInv.forward_step [DecidableEq ι] [DecidableEq κ] (h : ProxyInv base s)
    {left : HeaderMap} {τ : Type} {h₁ h₂ : BoltCommandHandler τ} (ha : s.streams r = some a)
    (hheaders : a.downstreamReqHeaders = some headers) (hlife : s.InLifetime r)
    (hout : upstreamAppendHeaders ((defaultProtocols h₁ h₂).encodeHeaders order pool)
      (s.clients c) r headers isEnd = .ok out) (hleft : out.headers = .map left) :
    ProxyInv base
      (({ s with forwarded := s.forwarded ++ ProxyState.sentOn c r out.sender }.setClient c
        out.conn).setStream r
          { a with
            downstreamReqHeaders := some left, upstreamRequest := some (c, out.sender) }) := by
  obtain ⟨o, ho, hok⟩ := h.stream r a ha
  obtain ⟨hown, hcarries, k, frames, hk, hsent, hsends⟩ :=
    upstreamAppendHeaders_sent (hok.headers headers hheaders) hout hleft
  have hmem : out.sender.encodedHeaders ≠ none →
      (⟨c, r, o.id base⟩ : Forwarded ι κ) ∈ ProxyState.sentOn c r out.sender := by
    intro hne
    obtain ⟨buf, hbuf⟩ := Option.ne_none_iff_exists'.mp hne
    unfold ProxyState.sentOn
    rw [hbuf]
    show _ ∈ [_]
    rw [hcarries buf hbuf, uint32_putUint32]
    exact List.mem_singleton_self _
  have honly : ∀ w ∈ ProxyState.sentOn c r out.sender, w = ⟨c, r, o.id base⟩ := by
    grind [ProxyState.sentOn, List.mem_singleton, uint32_putUint32]
  -- first the record of what was sent, then the connection, then the stream
  have hinv := h.forward (ProxyState.sentOn c r out.sender) (by
    intro w hw
    rw [honly w hw]
    exact ⟨o, ho, rfl⟩)
  refine (hinv.setClient (((hinv.client c).newStream ho hk (hlife o ho)).sent hsent ?_)).setStream
    ho ⟨hok.server, hok.streamID, hok.requestID, hok.encoded, ?_, ?_⟩
  · grind
  · intro h' hh'
    cases hh'
    exact hown
  · grind

theorem ProxyInv.forwardData_step [DecidableEq ι] [DecidableEq κ] (h : ProxyInv base s)
    (data : List UInt8) (isEnd : Bool)
    (ha : s.streams r = some a) (hup : a.upstreamRequest = some (c, sender)) : ProxyInv base
      ((s.setClient c ((s.clients c).appendData sender data isEnd).2).setStream r
        { a with
          upstreamRequest := some (c, ((s.clients c).appendData sender data isEnd).1) }) := by
  obtain ⟨o, ho, hok⟩ := h.stream r a ha
  obtain ⟨hcarries, hmem⟩ := hok.upstream c sender hup
  obtain ⟨hcarries', frames, hsent, hsends⟩ :=
    appendData_sent (s.clients c) hcarries data isEnd
  refine (h.setClient ((h.client c).sent hsent ?_)).setStream ho
    ⟨hok.server, hok.streamID, hok.requestID, hok.encoded, hok.headers, ?_⟩
  · grind
  · intro c' sender' hu
    cases hu
    exact ⟨hcarries', hmem⟩

theorem StreamOk.sterilized (h : StreamOk base forwarded r o a) (headers : HeaderMap) :
    ∀ v, (sterilized a.responseSender headers).lookup headerReqID = some v →
      v = streamIDConv o.reqID := by
  intro v hv
  rw [lookup_sterilized _ _ reqID_not_proxy (by decide), if_pos ⟨h.server, rfl⟩,
    h.requestID] at hv
  exact (Option.some.inj hv).symm

/-- **Answering**: whatever headers a stream's sender is given, the connection
and the sender stay what they should be. -/
theorem ProxyInv.answer [DecidableEq ι] (h : ProxyInv base s) {left : Option HeaderMap}
    {frames : List (List UInt8)} (ho : s.origin r = some o) (hok : StreamOk base s.forwarded r o a)
    (hsame : ∃ encoded data, sender
      = { a.responseSender with encodedHeaders := encoded, encodedData := data })
    (hcarries : sender.Carries o.reqID) (hsent : Sent (s.servers r.1) conn frames)
    (hframes : ∀ f ∈ frames, slice f 5 9 = putUint32 o.reqID)
    (hleft : left = a.downstreamReqHeaders ∨ left = none) :
    ProxyInv base ((s.setServer r.1 conn).setStream r
      { a with responseSender := sender, downstreamReqHeaders := left }) := by
  obtain ⟨encoded, data, rfl⟩ := hsame
  refine (h.setServer ((h.server r.1).sent hsent (fun f hf => ⟨r.2, o, ho, hframes f hf⟩))
    hsent.detected).setStream ho
      ⟨hok.server, hok.streamID, hok.requestID, hcarries, fun m hm => ?_, hok.upstream⟩
  grind

/-- A response frame: only the client connection it comes in on changes, and
calls go to the receiver registered under its request id. -/
theorem response_client {b spare : List UInt8} {clock : Nat → Int}
    {l : ConnLoop (ι × Nat)} (h : ProxyInv base s)
    (hframe : FrameKind.responseV1.At b) (hcode : (uint16 (slice b 2 4)).toInt16 = rpcResponse)
    (hpass : passOver order spare clock b ⟨s.generator, s.clients c⟩ = .ok (.again l)) :
    l.env.generator = s.generator
      ∧ ClientOk base s.origin s.issued s.forwarded c l.env.filter
      ∧ ∃ added, l.env.filter.callbacks = (s.clients c).callbacks ++ added
        ∧ ∀ cb ∈ added, ∃ stream,
          (s.clients c).activeStreams.lookup (streamIDConv (uint32 (slice b 5 9))) = some stream
            ∧ cb.receiver = stream.decoder := by
  obtain ⟨headers, content, hcall, hgen⟩ := decodeBody_response order
    (s := ⟨.newIoBufferBytes b, ⟨s.generator, s.clients c⟩, [], []⟩) hframe hcode hpass
  obtain ⟨hadded, hcb, hwritten, hactive⟩ :=
    StreamConnection.take_client (h.client c).callbacks hcall
  refine ⟨hgen, ⟨hcb, fun k e hk => (h.client c).entries k e (hactive k e hk), fun f hf => ?_⟩,
    hadded⟩
  rw [hwritten] at hf
  exact (h.client c).written f hf

/-! ## §5. A request. -/

theorem foldl_onCallback_contentCalls [DecidableEq ι] (frame : List UInt8) (r : ι × Nat)
    (headers : HeaderMap) (content : List UInt8) (s : ProxyState ι κ) :
    (StreamConnection.contentCalls r headers content).foldl (ProxyState.onCallback frame) s
      = s := by
  unfold StreamConnection.contentCalls
  split <;> rfl

/-- The state after a request made a stream: one id more is issued, the
connection has changed, and the stream has a sender under the two ids. -/
def ProxyState.streamBorn [DecidableEq ι] (s : ProxyState ι κ) (base : UInt32) (i : ι)
    (b : List UInt8) (conn : StreamConnection (ι × Nat)) : ProxyState ι κ :=
  let o : Origin := ⟨b, s.issued + 1⟩
  let r : ι × Nat := (i, (s.servers i).detected)
  { s with
    generator := ⟨o.id base⟩
    servers := Function.update s.servers i conn
    streams := Function.update s.streams r
      (some ⟨⟨streamIDConv (o.id base), streamIDConv o.reqID, .serverStream, none, none⟩, none,
        none⟩)
    issued := s.issued + 1
    origin := Function.update s.origin r (some o) }

theorem requestReceived_eq [DecidableEq ι] (s : ProxyState ι κ) (i : ι) (b : List UInt8)
    {g : IDGenerator} {h marked : HeaderMap} {content : List UInt8}
    (hr : r = (i, (s.servers i).detected)) (ho : o = ⟨b, s.issued + 1⟩) (hg : g = ⟨o.id base⟩)
    (hlog : conn.callbacks = (s.servers i).callbacks
      ++ (.newStream r (streamIDConv (o.id base)) (streamIDConv o.reqID)
        :: .receiveHeaders r h isEnd :: StreamConnection.contentCalls r marked content)) :
    s.requestReceived i b ⟨g, conn⟩ = s.streamBorn base i b conn := by
  subst hr ho hg
  unfold ProxyState.requestReceived
  rw [hlog, List.drop_left, List.foldl_cons, List.foldl_cons, foldl_onCallback_contentCalls]
  rfl

/-- The server connection after a request made a stream on it. -/
@[local grind cases]
structure Admitted (conn conn' : StreamConnection (ι × Nat)) (i : ι) (streamID : GoString)
    (requestID : GoString) (added : List (Callback (ι × Nat))) : Prop where
  callbacks : conn'.serverCallbacks = conn.serverCallbacks
  detected : conn'.detected = conn.detected + 1
  active : conn'.activeStreams = conn.activeStreams.insert streamID
    ⟨streamID, requestID, .serverStream, (i, conn.detected)⟩
  written : conn'.written = conn.written
  log : conn'.callbacks = conn.callbacks ++ added
  receiver : ∀ cb ∈ added, cb.receiver = (i, conn.detected)
  headers : ∀ r h isEnd, .receiveHeaders r h isEnd ∈ added → OwnHeaders streamID h

theorem admitted_deliver (conn : StreamConnection (ι × Nat)) (i : ι)
    (streamID requestID : GoString) (headers : HeaderMap) (content : List UInt8) :
    let r : ι × Nat := (i, conn.detected)
    let marked := headers.insert headerReqID streamID
    Admitted conn
      (((conn.detect (fun n => (i, n)) streamID requestID).deliver r streamID marked).deliverContent
        r marked content) i streamID requestID
      (.newStream r streamID requestID
        :: .receiveHeaders r (decodeSterilize streamID marked).2 (endsStream marked)
        :: StreamConnection.contentCalls r marked content) := by
  intro r marked
  constructor
  case callbacks => exact StreamConnection.serverCallbacks_deliverContent _ _ _ _
  case detected => exact StreamConnection.detected_deliverContent _ _ _ _
  case active => exact StreamConnection.activeStreams_deliverContent _ _ _ _
  case written => exact StreamConnection.written_deliverContent _ _ _ _
  case log =>
    exact (StreamConnection.callbacks_deliver (conn.detect (fun n => (i, n)) streamID requestID) r
      streamID marked content).trans (List.append_assoc _ _ _)
  case receiver =>
    intro cb hcb
    rcases List.mem_cons.mp hcb with heq | hcb
    · rw [heq]
      rfl
    · rcases List.mem_cons.mp hcb with heq | hcb
      · rw [heq]
        rfl
      · exact StreamConnection.receiver_of_mem_contentCalls hcb
  case headers =>
    grind [ownHeaders_decodeSterilize, receiveHeaders_notMem_contentCalls]

theorem ProxyInv.getString (h : ProxyInv base s) (b : List UInt8) :
    s.generator.getString = (streamIDConv (Origin.id base ⟨b, s.issued + 1⟩),
      ⟨Origin.id base ⟨b, s.issued + 1⟩⟩) := by
  have hnext : s.generator.counter + 1 = Origin.id base ⟨b, s.issued + 1⟩ := by
    show _ = base + UInt32.ofNat (s.issued + 1)
    rw [h.generator, UInt32.ofNat_add, UInt32.add_assoc]
    rfl
  unfold IDGenerator.getString streamIDConv
  rw [hnext]

theorem ProxyInv.fresh [DecidableEq ι] (h : ProxyInv base s) (i : ι) (b : List UInt8)
    (hlife : s.CanIssue) :
    (s.servers i).activeStreams.lookup (streamIDConv (Origin.id base ⟨b, s.issued + 1⟩))
      = none := by
  cases hlookup : (s.servers i).activeStreams.lookup
      (streamIDConv (Origin.id base ⟨b, s.issued + 1⟩)) with
  | none => rfl
  | some e =>
    exfalso
    obtain ⟨o', hi, ho', hk, -⟩ := (h.server i).entries _ e hlookup
    have hlt := hlife e.decoder o' (Or.inl ⟨_, e, by rw [hi]; exact hlookup, rfl⟩) ho'
    have hle := h.birth_le e.decoder o' ho'
    have heq := birth_eq_of_id_eq (s.issued + 1) (streamIDConv_injective hk) (Nat.le_refl _)
      (by omega) (by show s.issued + 1 < s.issued + 1 + 2 ^ 32; omega) hlt
    change s.issued + 1 = o'.birth at heq
    omega

section Request

variable [DecidableEq ι] {i : ι} {b spare : List UInt8} {m : HeaderMap}
  {order : HeaderOrder} {clock : Nat → Int}

/-- **A request makes a stream of its own**: the pass goes on, one stream is
made under the next id, and its receiver gets the headers. -/
theorem request_pass (order : HeaderOrder) (clock : Nat → Int)
    (h : ProxyInv base s) (hreq : AcceptedRequest b spare m)
    (htype : b.getD 1 0 = SofaRpc.request) (hlife : s.CanIssue) :
    let o : Origin := ⟨b, s.issued + 1⟩
    let r : ι × Nat := (i, (s.servers i).detected)
    ∃ l, passOver order spare clock b ⟨s.generator, s.servers i⟩ = .ok (.again l)
      ∧ ∃ added, Admitted (s.servers i) l.env.filter i (streamIDConv (o.id base))
        (streamIDConv o.reqID) added
      ∧ (∃ isEnd, added[1]? = some (.receiveHeaders r (deliveredRequest b m (o.id base)) isEnd))
      ∧ s.requestReceived i b l.env = s.streamBorn base i b l.env.filter := by
  intro o r
  have hgen := h.getString b
  have hsofa := (hreq.isSofaRequest (requestCommandV1 b).content).trans (decide_eq_true htype)
  have hcall := StreamConnection.take_new (o := ⟨_, requestHeaders b m, some _⟩) hsofa
    (h.server i).callbacks (h.fresh i b hlife)
  have hid : (markEnd (requestCommandV1 b).content (requestHeaders b m)).lookup headerReqID
      = some (streamIDConv o.reqID) := by
    rw [← formatUint64_uint32]
    exact hreq.lookup _ (by simp [boltProperties]) (by
      simp [requestFields, sofaPropertyHeader, o, Origin.reqID])
  simp only [Offer.marked, hid] at hcall
  obtain ⟨l, hl, henv⟩ := hreq.pass (s := ⟨.newIoBufferBytes b, ⟨s.generator, s.servers i⟩, [], []⟩)
    order clock (by
      unfold requestOffer
      rw [hgen]
      exact hcall)
  have hadm := admitted_deliver (s.servers i) i (streamIDConv (o.id base)) (streamIDConv o.reqID)
    (markEnd (requestCommandV1 b).content (requestHeaders b m)) (requestCommandV1 b).content
  have hgen₂ : s.generator.getString.2 = ⟨o.id base⟩ := by rw [hgen]
  refine ⟨l, hl, ?_⟩
  rw [henv]
  exact ⟨_, hadm, ⟨_, rfl⟩, requestReceived_eq s i b rfl rfl hgen₂ hadm.log⟩

theorem request_server {l : ConnLoop (ι × Nat)}
    (h : ProxyInv base s) (hreq : AcceptedRequest b spare m)
    (htype : b.getD 1 0 = SofaRpc.request) (hlife : s.CanIssue)
    (hpass : passOver order spare clock b ⟨s.generator, s.servers i⟩ = .ok (.again l)) :
    let o : Origin := ⟨b, s.issued + 1⟩
    ∃ added, Admitted (s.servers i) l.env.filter i (streamIDConv (o.id base))
        (streamIDConv o.reqID) added
      ∧ s.requestReceived i b l.env = s.streamBorn base i b l.env.filter := by
  obtain ⟨l', hpass', added, hadm, -, hstate⟩ := request_pass order clock h hreq htype hlife
  rw [hpass] at hpass'
  cases hpass'
  exact ⟨added, hadm, hstate⟩

end Request

variable {r : ι × Nat} {o : Origin} {i : ι} {conn : StreamConnection (ι × Nat)} {issued' : Nat}
  {c : κ} {s' t : ProxyState ι κ} {e : ProxyEvent ι κ} {es : List (ProxyEvent ι κ)}

theorem origin_update [DecidableEq ι] {r' : ι × Nat} {o' : Origin} (hnone : origin r = none)
    (h : origin r' = some o') : Function.update origin r (some o) r' = some o' := by
  have hne : r' ≠ r := by
    intro heq
    rw [heq, hnone] at h
    cases h
  rw [Function.update_of_ne hne, h]

theorem birth_inj_update [DecidableEq ι] {r₀ : ι × Nat} {o₀ : Origin}
    (hle : ∀ r o, origin r = some o → o.birth < o₀.birth)
    (hinj : ∀ r r' o o', origin r = some o → origin r' = some o' → o.birth = o'.birth → r = r') :
    ∀ r r' o o', Function.update origin r₀ (some o₀) r = some o →
      Function.update origin r₀ (some o₀) r' = some o' → o.birth = o'.birth → r = r' := by
  intro r r' o o' hr hr' hbirth
  rcases update_eq_some hr with ⟨heq, ho⟩ | ⟨-, hr⟩ <;>
    rcases update_eq_some hr' with ⟨heq', ho'⟩ | ⟨-, hr'⟩
  · rw [heq, heq']
  · have hlt := hle r' o' hr'
    rw [ho] at hbirth
    omega
  · have hlt := hle r o hr
    rw [ho'] at hbirth
    omega
  · exact hinj r r' o o' hr hr' hbirth

theorem ServerOk.born [DecidableEq ι] (h : ServerOk base origin issued i conn)
    (hnone : origin r = none)
    (hlife : ∀ k e o', conn.activeStreams.lookup k = some e → origin e.decoder = some o' →
      issued' < o'.birth + 2 ^ 32) :
    ServerOk base (Function.update origin r (some o)) issued' i conn := by
  refine ⟨h.callbacks, fun k e hk => ?_, fun r' m e hm => ?_, fun f hf => ?_⟩ <;> grind

theorem ClientOk.born [DecidableEq ι] (h : ClientOk base origin issued forwarded c conn)
    (hnone : origin r = none)
    (hlife : ∀ k e o', conn.activeStreams.lookup k = some e → origin e.decoder = some o' →
      issued' < o'.birth + 2 ^ 32) :
    ClientOk base (Function.update origin r (some o)) issued' forwarded c conn := by
  refine ⟨h.callbacks, fun k e hk => ?_, h.written⟩
  grind

theorem ServerOk.admitted {conn' : StreamConnection (ι × Nat)}
    {requestID : GoString} {added : List (Callback (ι × Nat))}
    (h : ServerOk base origin issued i conn)
    (hadm : Admitted conn conn' i (streamIDConv (o.id base)) requestID added)
    (ho : origin (i, conn.detected) = some o) (hlt : issued < o.birth + 2 ^ 32) :
    ServerOk base origin issued i conn' := by
  refine ⟨hadm.callbacks.trans h.callbacks, fun k e hk => ?_, fun r m e hm => ?_, fun f hf => ?_⟩
  · grind [GoMap.lookup_insert_ite]
  · rw [hadm.log] at hm
    rcases List.mem_append.mp hm with hm | hm
    · exact h.log r m e hm
    · have hr : r = (i, conn.detected) := hadm.receiver _ hm
      exact ⟨o, hr ▸ ho, hadm.headers r m e hm⟩
  · rw [hadm.written] at hf
    exact h.written f hf

theorem ProxyInv.request_step [DecidableEq ι] {b spare : List UInt8} {m : HeaderMap}
    {order : HeaderOrder} {clock : Nat → Int}
    {l : ConnLoop (ι × Nat)} (h : ProxyInv base s)
    (hreq : AcceptedRequest b spare m) (htype : b.getD 1 0 = SofaRpc.request) (hlife : s.CanIssue)
    (hpass : passOver order spare clock b ⟨s.generator, s.servers i⟩ = .ok (.again l)) :
    ProxyInv base (s.requestReceived i b l.env) := by
  obtain ⟨added, hadm, hstate⟩ := request_server h hreq htype hlife hpass
  rw [hstate]
  have hnone : s.origin (i, (s.servers i).detected) = none := h.unborn i _ (Nat.le_refl _)
  -- streams in a map are alive, so the new id does not end their lifetime
  have hserver : ∀ j k e o', (s.servers j).activeStreams.lookup k = some e →
      s.origin e.decoder = some o' → s.issued + 1 < o'.birth + 2 ^ 32 := by
    intro j k e o' hk ho'
    obtain ⟨-, hj, -⟩ := (h.server j).entries k e hk
    exact hlife e.decoder o' (Or.inl ⟨k, e, by rw [hj]; exact hk, rfl⟩) ho'
  have hclient : ∀ c k e o', (s.clients c).activeStreams.lookup k = some e →
      s.origin e.decoder = some o' → s.issued + 1 < o'.birth + 2 ^ 32 :=
    fun c k e o' hk ho' => hlife e.decoder o' (Or.inr ⟨c, k, e, hk, rfl⟩) ho'
  constructor
  case generator => rfl
  case server =>
    refine (Function.forall_update_iff s.servers (ServerOk base _ (s.issued + 1))).mpr
      ⟨?_, fun j _ => (h.server j).born hnone (hserver j)⟩
    exact ((h.server i).born hnone (hserver i)).admitted hadm (Function.update_self _ _ _)
      (by show _ < _ + 1 + _; omega)
  case client => exact fun c => (h.client c).born hnone (hclient c)
  case stream =>
    intro r a hr
    rcases update_eq_some hr with ⟨heq, ha⟩ | ⟨-, hr⟩
    · rw [heq, ha]
      exact ⟨_, Function.update_self _ _ _, rfl, rfl, rfl, fun _ hbuf => (nomatch hbuf),
        fun _ hh => (nomatch hh), fun _ _ hu => (nomatch hu)⟩
    · obtain ⟨o, ho, hok⟩ := h.stream r a hr
      exact ⟨o, origin_update hnone ho, hok⟩
  case started =>
    intro r o hr
    show ∃ a, Function.update s.streams _ _ r = some a
    rcases update_eq_some hr with ⟨heq, -⟩ | ⟨hne, hr⟩
    · rw [heq]
      exact ⟨_, Function.update_self _ _ _⟩
    · rw [Function.update_of_ne hne]
      exact h.started r o hr
  case unborn =>
    refine (Function.forall_update_iff s.servers
      (fun j conn => ∀ n, conn.detected ≤ n → Function.update s.origin _ _ (j, n) = none)).mpr
        ⟨fun n hn => ?_, fun j hj n hn => ?_⟩
    all_goals grind
  case birth_le =>
    intro r o hr
    show o.birth ≤ s.issued + 1
    rcases update_eq_some hr with ⟨-, ho⟩ | ⟨-, hr⟩
    · rw [ho]
    · exact Nat.le_succ_of_le (h.birth_le r o hr)
  case birth_inj =>
    exact birth_inj_update (fun r o hr => Nat.lt_succ_of_le (h.birth_le r o hr)) h.birth_inj
  case forwarded =>
    intro w hw
    obtain ⟨o, ho, hid⟩ := h.forwarded w hw
    exact ⟨o, origin_update hnone ho, hid⟩

/-! ## §6. Runs. -/

/-- **Every step keeps the invariant.** -/
theorem step_inv [DecidableEq ι] [DecidableEq κ]
    (h : ProxyInv base s) (hstep : ProxyStep s e s') : ProxyInv base s' := by
  cases hstep with
  | request hreq htype hlife hpass => exact h.request_step hreq htype hlife hpass
  | @receive i j r headers isEnd a hcall ha =>
    obtain ⟨o, ho, hok⟩ := h.stream r a ha
    obtain ⟨o', ho', hown⟩ := (h.server i).log r headers isEnd (List.mem_of_getElem? hcall)
    rw [ho] at ho'
    cases ho'
    refine h.setStream ho
      ⟨hok.server, hok.streamID, hok.requestID, hok.encoded, fun m hm => ?_, hok.upstream⟩
    cases hm
    exact hown
  | forward ha hheaders hlife hout hleft => exact h.forward_step ha hheaders hlife hout hleft
  | forwardData ha hup => exact h.forwardData_step _ _ ha hup
  | response hframe hcode hpass =>
    obtain ⟨hgen, hclient, -⟩ := response_client h hframe hcode hpass
    have hset := h.setClient hclient
    grind
  | @replyHeaders c j r headers isEnd a _ _ _ _ _ out hcall ha hout =>
    obtain ⟨o, ho, hok⟩ := h.stream r a ha
    obtain ⟨⟨encoded, hsame⟩, hcarries, frames, hsent, hsends⟩ :=
      appendHeaders_sent (hok.sterilized headers) hout
    exact h.answer ho hok ⟨encoded, a.responseSender.encodedData, hsame⟩ hcarries hsent
      (fun f hf => (hsends f hf).2) (Or.inl rfl)
  | @replyData c j r data isEnd a hcall ha =>
    obtain ⟨o, ho, hok⟩ := h.stream r a ha
    obtain ⟨hcarries, frames, hsent, hsends⟩ :=
      appendData_sent (s.servers r.1) hok.encoded data isEnd
    exact h.answer ho hok ⟨a.responseSender.encodedHeaders, some data, rfl⟩ hcarries hsent
      (fun f hf => (hsends f hf).2) (Or.inl rfl)
  | @hijack r code a headers _ _ _ _ _ d ha hheaders hsend =>
    obtain ⟨o, ho, hok⟩ := h.stream r a ha
    obtain ⟨out, hout, hconn, hsender⟩ := sendHijackReply_conn hsend
    obtain ⟨⟨encoded, hsame⟩, hcarries, frames, hsent, hsends⟩ :=
      appendHeaders_sent (hok.sterilized _) hout
    rw [hconn, hsender]
    exact h.answer ho hok ⟨encoded, a.responseSender.encodedData, hsame⟩ hcarries hsent
      (fun f hf => (hsends f hf).2) (Or.inr rfl)

theorem run_inv [DecidableEq ι] [DecidableEq κ]
    (hrun : Run ProxyStep (ProxyState.initial base) es s) : ProxyInv base s :=
  hrun.invariant (ProxyInv base) (fun _ _ _ h hstep => step_inv h hstep) (initial_inv base)

/-- **No id is invented**: a frame written to a client answers a request of its
connection, and a frame written upstream carries the id generated for a request
that was forwarded there. -/
theorem written_ids [DecidableEq ι] [DecidableEq κ] (base : UInt32) (es : List (ProxyEvent ι κ)) :
    EveryState ProxyStep (fun s =>
      (∀ i, ∀ f ∈ (s.servers i).written,
        ∃ n o, s.origin (i, n) = some o ∧ slice f 5 9 = putUint32 o.reqID)
      ∧ ∀ c, ∀ f ∈ (s.clients c).written, ∃ w ∈ s.forwarded, w.client = c
        ∧ ∃ o, s.origin w.receiver = some o ∧ slice f 5 9 = putUint32 (o.id base))
      (ProxyState.initial base) es := by
  intro before after s _ hrun
  have h := run_inv hrun
  refine ⟨fun i => (h.server i).written, fun c f hf => ?_⟩
  obtain ⟨w, hw, hc, hslice⟩ := (h.client c).written f hf
  obtain ⟨o, ho, hid⟩ := h.forwarded w hw
  exact ⟨w, hw, hc, o, ho, hid ▸ hslice⟩

/-- What a later state keeps of an earlier one: calls stay in the logs of the
client connections, and streams come from where they came from. -/
structure Extends (s t : ProxyState ι κ) : Prop where
  log : ∀ c, (s.clients c).callbacks <+: (t.clients c).callbacks
  origin : ∀ r o, s.origin r = some o → t.origin r = some o

theorem Extends.refl (s : ProxyState ι κ) : Extends s s :=
  ⟨fun _ => List.prefix_refl _, fun _ _ h => h⟩

theorem Extends.trans {s u : ProxyState ι κ} (h₁ : Extends s t) (h₂ : Extends t u) : Extends s u :=
  ⟨fun c => (h₁.log c).trans (h₂.log c), fun r o h => h₂.origin r o (h₁.origin r o h)⟩

theorem log_setClient [DecidableEq κ] (hlog : (s.clients c).callbacks <+: conn.callbacks) :
    ∀ d, (s.clients d).callbacks <+: ((s.setClient c conn).clients d).callbacks :=
  (Function.forall_update_iff s.clients
    (fun d conn => (s.clients d).callbacks <+: conn.callbacks)).mpr
      ⟨hlog, fun _ _ => List.prefix_refl _⟩

theorem step_extends [DecidableEq ι] [DecidableEq κ]
    (h : ProxyInv base s) (hstep : ProxyStep s e s') : Extends s s' := by
  cases hstep with
  | @request i b spare m order clock l hreq htype hlife hpass =>
    obtain ⟨added, -, hstate⟩ := request_server h hreq htype hlife hpass
    rw [hstate]
    exact ⟨fun _ => List.prefix_refl _,
      fun r o ho => origin_update (h.unborn i _ (Nat.le_refl _)) ho⟩
  | @forward r c a headers left _ _ _ _ _ _ out ha hheaders hlife hout hleft =>
    obtain ⟨o, ho, hok⟩ := h.stream r a ha
    obtain ⟨-, -, k, frames, -, hsent, -⟩ :=
      upstreamAppendHeaders_sent (hok.headers headers hheaders) hout hleft
    have hlog : (s.clients c).callbacks <+: out.conn.callbacks := by rw [hsent.callbacks]; rfl
    exact ⟨log_setClient hlog, fun _ _ ho => ho⟩
  | @forwardData r c a sender data isEnd ha hup =>
    obtain ⟨o, ho, hok⟩ := h.stream r a ha
    obtain ⟨-, frames, hsent, -⟩ :=
      appendData_sent (s.clients c) (hok.upstream c sender hup).1 data isEnd
    exact ⟨log_setClient (by rw [hsent.callbacks]), fun _ _ ho => ho⟩
  | response hframe hcode hpass =>
    obtain ⟨-, -, added, hadded, -⟩ := response_client h hframe hcode hpass
    exact ⟨log_setClient ⟨added, hadded.symm⟩, fun _ _ ho => ho⟩
  | receive => exact ⟨fun _ => List.prefix_refl _, fun _ _ ho => ho⟩
  | replyHeaders => exact ⟨fun _ => List.prefix_refl _, fun _ _ ho => ho⟩
  | replyData => exact ⟨fun _ => List.prefix_refl _, fun _ _ ho => ho⟩
  | hijack => exact ⟨fun _ => List.prefix_refl _, fun _ _ ho => ho⟩

theorem run_extends [DecidableEq ι] [DecidableEq κ]
    (h : ProxyInv base s) (hrun : Run ProxyStep s es t) : ProxyInv base t ∧ Extends s t :=
  hrun.invariant (fun t => ProxyInv base t ∧ Extends s t)
    (fun _ _ _ ht hstep => ⟨step_inv ht.1 hstep, ht.2.trans (step_extends ht.1 hstep)⟩)
    ⟨h, Extends.refl s⟩

end Invariant

end Mosn.Proxy
