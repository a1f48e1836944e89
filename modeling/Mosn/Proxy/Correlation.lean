/-
  Mosn.Proxy.Correlation
  **EVERY RESPONSE FINDS ITS REQUEST.**

  Any number of clients may choose equal request ids, and upstream responses
  come back in any order.

    • `responses_correlated` — a response is delivered to the receiver of the
      very request it answers, and what is written for it downstream carries
      the request id that this request's client chose.
-/
import Mosn.Proxy.Invariant

namespace Mosn.Proxy

open Mosn.Lib Mosn.Types Mosn.Network Mosn.Protocol Mosn.Protocol.SofaRpc Mosn.Stream.SofaRpc

section Correlation

variable {ι κ : Type} {base : UInt32} {s : ProxyState ι κ}

/-! ## §1. The way of a response can be gone. -/

section Way

variable [DecidableEq ι] [DecidableEq κ]

variable {b : List UInt8} {m : HeaderMap} {r : ι × Nat} {a : ProxyStream κ} {c : κ}

theorem request_possible {spare : List UInt8} (i : ι) (h : ProxyInv base s)
    (hreq : AcceptedRequest b spare m) (htype : b.getD 1 0 = SofaRpc.request) (hlife : s.CanIssue) :
    let o : Origin := ⟨b, s.issued + 1⟩
    let r : ι × Nat := (i, (s.servers i).detected)
    ∃ s', ProxyStep s (.request i b) s' ∧ s'.clients = s.clients ∧ s'.forwarded = s.forwarded
      ∧ s'.issued = s.issued + 1 ∧ s'.origin = Function.update s.origin r (some o)
      ∧ ∃ isEnd, (s'.servers i).callbacks[(s.servers i).callbacks.length + 1]?
        = some (.receiveHeaders r (deliveredRequest b m (o.id base)) isEnd) := by
  intro o r
  obtain ⟨l, hpass, added, hadm, ⟨isEnd, hheaders⟩, hstate⟩ :=
    request_pass GoMap.someOrder (fun _ => 0) h hreq htype hlife
  refine ⟨_, .request hreq htype hlife hpass, ?_⟩
  rw [hstate]
  refine ⟨rfl, rfl, rfl, rfl, isEnd, ?_⟩
  show (Function.update s.servers i l.env.filter i).callbacks[_]? = _
  rw [Function.update_self, hadm.log, List.getElem?_append_right (Nat.le_add_right _ 1),
    Nat.add_sub_cancel_left, hheaders]

theorem forward_possible {l : GoMap.Listing m} {id : UInt32} (c : κ) (h : ForwardableRequest b m l)
    (ha : s.streams r = some a) (hheaders : a.downstreamReqHeaders = some (deliveredRequest b m id))
    (hlife : s.InLifetime r) :
    ∃ s', ProxyStep s (.forward r c) s' ∧ s'.origin = s.origin ∧ s'.issued = s.issued
      ∧ ⟨c, r, id⟩ ∈ s'.forwarded
      ∧ (s'.clients c).activeStreams.lookup (streamIDConv id)
        = some ⟨streamIDConv id, streamIDConv id, .clientStream, r⟩
      ∧ (s'.clients c).callbacks = (s.clients c).callbacks := by
  obtain ⟨out, hout, hleft, hencoded⟩ := upstreamAppendHeaders_plain
    (newBoltCommandHandler (StreamConnection.filter (ρ := ι × Nat)) GoMap.someOrder [])
    (newBoltCommandHandlerV2 StreamConnection.filter GoMap.someOrder []) GoMap.someOrder none h id
    (s.clients c) r false
  have hown : OwnHeaders (streamIDConv id) (deliveredRequest b m id) :=
    ownHeaders_decodeSterilize _ _
  obtain ⟨-, hcarries, -⟩ := upstreamAppendHeaders_sent hown hout hleft
  obtain ⟨buf, hbuf⟩ := Option.ne_none_iff_exists'.mp hencoded
  -- the headers do not end the stream, so nothing leaves the map
  have hconn : out.conn = ((s.clients c).newStream (streamIDConv id) r).2 := by
    have hcases := hout
    unfold upstreamAppendHeaders deliveredRequest at hcases
    rw [lookup_decodeSterilize_streamID] at hcases
    obtain ⟨result, _, -, rfl⟩ := appendHeaders_ok hcases
    cases result <;> rfl
  refine ⟨_, .forward ha hheaders hlife hout hleft, rfl, rfl, ?_, ?_, ?_⟩
  · refine List.mem_append_right _ ?_
    unfold ProxyState.sentOn
    rw [hbuf]
    show _ ∈ [_]
    rw [hcarries buf hbuf, uint32_putUint32]
    exact List.mem_singleton_self _
  · show (Function.update s.clients c out.conn c).activeStreams.lookup _ = _
    rw [Function.update_self, hconn]
    exact Finmap.lookup_insert _
  · show (Function.update s.clients c out.conn c).callbacks = _
    rw [Function.update_self, hconn]
    rfl

theorem response_possible {l : GoMap.Listing m}
    {e : StreamEntry (ι × Nat)} (h : ReturnableResponse b m l)
    (hentry : (s.clients c).activeStreams.lookup (streamIDConv (uint32 (slice b 5 9)))
      = some e) :
    ∃ s', ProxyStep s (.response c b) s' ∧ s'.streams = s.streams
      ∧ ∃ isEnd, (s'.clients c).callbacks[(s.clients c).callbacks.length]?
        = some (.receiveHeaders e.decoder (deliveredResponse 0 b m) isEnd) := by
  obtain ⟨l', added, hpass, hlog⟩ := h.pass GoMap.someOrder [] (fun _ => 0) s.generator hentry
  refine ⟨_, .response h.frame h.cmdCode hpass, rfl, ?_⟩
  show ∃ isEnd, (Function.update s.clients c l'.env.filter c).callbacks[_]? = _
  rw [Function.update_self, hlog, List.getElem?_append_right (Nat.le_refl _), Nat.sub_self]
  exact ⟨_, rfl⟩

theorem reply_possible {j : Nat} {isEnd : Bool} {l : GoMap.Listing m} (hinv : ProxyInv base s)
    (h : ReturnableResponse b m l) (hcall : (s.clients c).callbacks[j]?
      = some (.receiveHeaders r (deliveredResponse 0 b m) isEnd))
    (ha : s.streams r = some a) : ∃ s', ProxyStep s (.reply c j) s' := by
  obtain ⟨o, -, hok⟩ := hinv.stream r a ha
  obtain ⟨buf, millis, hencode, -⟩ := h.encodes (newBoltCommandHandler
    (StreamConnection.filter (ρ := ι × Nat)) GoMap.someOrder [])
    (newBoltCommandHandlerV2 StreamConnection.filter GoMap.someOrder []) GoMap.someOrder none 0
    o.reqID a.responseSender hok.server hok.requestID
  exact ⟨_, .replyHeaders hcall ha (appendHeaders_eq (s.servers r.1) isEnd hencode)⟩

end Way

/-! ## §2. Whose response it is. -/

/-- The request frame `b` made a stream on connection `i` that was not there
before, and every call for it goes to that stream's receiver. -/
def RequestAdmitted (s s' : ProxyState ι κ) (i : ι) (b : List UInt8) : Prop :=
  ∃ n o added, s.origin (i, n) = none ∧ s'.origin (i, n) = some o ∧ o.frame = b
    ∧ (s'.servers i).callbacks = (s.servers i).callbacks ++ added
    ∧ ∀ cb ∈ added, cb.receiver = (i, n)

/-- The response frame `b` on client connection `c` answers the request `w`:
it was sent there, under this request id, and its stream's lifetime is not
over. -/
structure Answers (s : ProxyState ι κ) (w : Forwarded ι κ) (c : κ) (b : List UInt8) : Prop where
  sent : w ∈ s.forwarded
  client : w.client = c
  reqID : w.reqID = uint32 (slice b 5 9)
  alive : s.InLifetime w.receiver

/-- Every call for the response goes to the receiver registered for the
stream id that is its request id: the receiver of the request it answers. -/
def ResponseDelivered (s s' : ProxyState ι κ) (c : κ) (b : List UInt8) : Prop :=
  ∃ added, (s'.clients c).callbacks = (s.clients c).callbacks ++ added
    ∧ ∀ cb ∈ added,
      (∃ e, (s.clients c).activeStreams.lookup (streamIDConv (uint32 (slice b 5 9))) = some e
        ∧ cb.receiver = e.decoder)
      ∧ (∃ a, s.streams cb.receiver = some a
        ∧ a.responseSender.streamID = streamIDConv (uint32 (slice b 5 9)))
      ∧ ∀ w, Answers s w c b → cb.receiver = w.receiver

/-- Whatever was written goes to the connection of `r`, under the request id
of the request frame `b`. -/
def WrittenUnder (t t' : ProxyState ι κ) (r : ι × Nat) (b : List UInt8) : Prop :=
  (∃ frames, (t'.servers r.1).written = (t.servers r.1).written ++ frames
    ∧ ∀ f ∈ frames, ∀ now, (responseCommandV1 now f).reqID = (requestCommandV1 b).reqID)
  ∧ ∀ i, i ≠ r.1 → t'.servers i = t.servers i

variable [DecidableEq ι]

theorem writtenUnder_setServer {r : ι × Nat} {o : Origin}
    {conn : StreamConnection (ι × Nat)} {a : ProxyStream κ} {frames : List (List UInt8)}
    (hsent : Sent (s.servers r.1) conn frames)
    (hframes : ∀ f ∈ frames, slice f 5 9 = putUint32 o.reqID) :
    WrittenUnder s ((s.setServer r.1 conn).setStream r a) r o.frame := by
  refine ⟨⟨frames, ?_, fun f hf now => ?_⟩, fun i hi => Function.update_of_ne hi _ _⟩
  · show (Function.update s.servers r.1 conn r.1).written = _
    rw [Function.update_self, hsent.written]
  · show uint32 (slice f 5 9) = _
    rw [hframes f hf, uint32_putUint32]
    rfl

variable [DecidableEq κ] {s' : ProxyState ι κ}

theorem request_admitted {i : ι} {b : List UInt8} (h : ProxyInv base s)
    (hstep : ProxyStep s (.request i b) s') : RequestAdmitted s s' i b := by
  cases hstep with
  | @request _ _ spare m order clock l hreq htype hlife hpass =>
    obtain ⟨added, hadm, hstate⟩ := request_server h hreq htype hlife hpass
    rw [hstate]
    refine ⟨(s.servers i).detected, _, added, h.unborn i _ (Nat.le_refl _),
      Function.update_self _ _ _, rfl, ?_, hadm.receiver⟩
    show (Function.update s.servers i l.env.filter i).callbacks = _
    rw [Function.update_self, hadm.log]

theorem response_delivered {c : κ} {b : List UInt8} (h : ProxyInv base s)
    (hstep : ProxyStep s (.response c b) s') : ResponseDelivered s s' c b := by
  cases hstep with
  | @response _ _ spare order clock l hframe hcode hpass =>
    obtain ⟨-, -, added, hadded, hcalls⟩ := response_client h hframe hcode hpass
    refine ⟨added, ?_, fun cb hcb => ?_⟩
    · show (Function.update s.clients c l.env.filter c).callbacks = _
      rw [Function.update_self, hadded]
    · obtain ⟨e, hentry, hreceiver⟩ := hcalls cb hcb
      obtain ⟨o, ho, hkey, hlt⟩ := (h.client c).entries _ e hentry
      have hid : uint32 (slice b 5 9) = o.id base :=
        streamIDConv_injective (hkey.resolve_left (streamIDConv_ne_nil _))
      rw [hreceiver]
      refine ⟨⟨e, hentry, rfl⟩, ?_, fun w hw => ?_⟩
      · obtain ⟨a, ha⟩ := h.started e.decoder o ho
        obtain ⟨o', ho', hok⟩ := h.stream e.decoder a ha
        rw [ho] at ho'
        cases ho'
        exact ⟨a, ha, by rw [hok.streamID, hid]⟩
      · -- both streams have this id within their lifetimes
        obtain ⟨o', ho', hid'⟩ := h.forwarded w hw.sent
        have hbirth := birth_eq_of_id_eq s.issued
          (hid.symm.trans (hw.reqID.symm.trans hid')) (h.birth_le _ o ho)
          (h.birth_le _ o' ho') hlt (hw.alive o' ho')
        exact h.birth_inj _ _ o o' ho ho' hbirth

theorem reply_written {c : κ} {j : Nat} (h : ProxyInv base s)
    (hstep : ProxyStep s (.reply c j) s') :
    ∃ cb o, (s.clients c).callbacks[j]? = some cb ∧ s.origin cb.receiver = some o
      ∧ WrittenUnder s s' cb.receiver o.frame := by
  cases hstep with
  | @replyHeaders _ _ r headers isEnd a _ _ _ _ _ out hcall ha hout =>
    obtain ⟨o, ho, hok⟩ := h.stream r a ha
    obtain ⟨-, -, frames, hsent, hsends⟩ := appendHeaders_sent (hok.sterilized headers) hout
    exact ⟨_, o, hcall, ho, writtenUnder_setServer hsent (fun f hf => (hsends f hf).2)⟩
  | @replyData _ _ r data isEnd a hcall ha =>
    obtain ⟨o, ho, hok⟩ := h.stream r a ha
    obtain ⟨-, frames, hsent, hsends⟩ := appendData_sent (s.servers r.1) hok.encoded data isEnd
    exact ⟨_, o, hcall, ho, writtenUnder_setServer hsent (fun f hf => (hsends f hf).2)⟩

/-- **Correlation**: in every reachable state, a request makes a stream of its
own; a response is delivered only to the receiver registered under its request
id, the receiver of the very request it answers; and whenever the calls made
for it are worked off, what is written goes to that request's connection under
the request id that its client chose. -/
theorem responses_correlated {es : List (ProxyEvent ι κ)}
    (hrun : Run ProxyStep (ProxyState.initial base) es s) :
    (∀ i b s', ProxyStep s (.request i b) s' → RequestAdmitted s s' i b)
    ∧ ∀ c b s', ProxyStep s (.response c b) s' →
      ResponseDelivered s s' c b
      ∧ ∀ w, Answers s w c b → ∃ o, s.origin w.receiver = some o
        ∧ ∀ es' t j t', Run ProxyStep s' es' t → ProxyStep t (.reply c j) t' →
          (s.clients c).callbacks.length ≤ j → j < (s'.clients c).callbacks.length →
          WrittenUnder t t' w.receiver o.frame := by
  have h := run_inv hrun
  refine ⟨fun i b s' hstep => request_admitted h hstep, fun c b s' hstep => ?_⟩
  have hdelivered := response_delivered h hstep
  refine ⟨hdelivered, fun w hw => ?_⟩
  obtain ⟨o, ho, -⟩ := h.forwarded w hw.sent
  refine ⟨o, ho, fun es' t j t' hrun' hreply hle hlt => ?_⟩
  obtain ⟨ht, hext⟩ := run_extends (step_inv h hstep) hrun'
  obtain ⟨cb, o', hcall, ho', hwritten⟩ := reply_written ht hreply
  -- the call that is worked off is one of those made for the response
  obtain ⟨added, hadded, hto⟩ := hdelivered
  obtain ⟨later, hlater⟩ := hext.log c
  rw [← hlater, List.getElem?_append_left hlt, hadded, List.getElem?_append_right hle] at hcall
  have hreceiver := (hto cb (List.mem_of_getElem? hcall)).2.2 w hw
  have horigin := hext.origin _ o ((step_extends h hstep).origin _ o ho)
  rw [hreceiver, horigin] at ho'
  cases ho'
  rwa [hreceiver] at hwritten

end Correlation

/-- Two clients choose request id 7.  The first one's request is sent on under
the generated id 9; its response finds its way back past the second one's. -/
theorem responses_correlated_equal_ids : ∃ s s' t' : ProxyState Nat Unit,
      Run ProxyStep (ProxyState.initial 8) [.request 0 oneHeaderRequest, .receive 0 1,
        .forward (0, 0) (), .request 1 oneHeaderRequest] s
      ∧ ProxyStep s (.response () oneHeaderResponse) s'
      ∧ ProxyStep s' (.reply () 0) t'
      ∧ WrittenUnder s' t' (0, 0) oneHeaderRequest := by
  have hinv₀ : ProxyInv 8 (ProxyState.initial 8 : ProxyState Nat Unit) := initial_inv 8
  -- the first request comes in, is taken from the queue and sent on
  obtain ⟨s₁, hstep₁, hclients₁, -, hissued₁, horigin₁, isEnd, hqueued⟩ := request_possible 0 hinv₀
    oneHeaderRequest_accepted (by decide) (fun r o _ ho => nomatch ho)
  have hinv₁ := step_inv hinv₀ hstep₁
  have hborn₁ : s₁.origin (0, 0) = some ⟨oneHeaderRequest, 1⟩ := by
    rw [horigin₁]
    rfl
  have hlife₁ : s₁.InLifetime (0, 0) := by
    intro o ho
    rw [hborn₁] at ho
    cases ho
    rw [hissued₁]
    decide
  obtain ⟨a, ha⟩ := hinv₁.started _ _ hborn₁
  have hstep₂ := ProxyStep.receive hqueued ha
  have hinv₂ := step_inv hinv₁ hstep₂
  have ha₂ := ProxyState.streams_setStream_self s₁ (0, 0) { a with
    downstreamReqHeaders := some (deliveredRequest oneHeaderRequest oneHeader
      (Origin.id 8 ⟨oneHeaderRequest, 1⟩)) }
  obtain ⟨s₃, hstep₃, horigin₃, hissued₃, hsent, hentry, hlog₃⟩ :=
    forward_possible () oneHeaderRequest_forwardable ha₂ rfl hlife₁
  have hinv₃ := step_inv hinv₂ hstep₃
  -- the second one comes in before the response
  obtain ⟨s, hstep₄, hclients, hforwarded, hissued, horigin, -⟩ := request_possible 1 hinv₃
    oneHeaderRequest_accepted (by decide) (by
      intro r o _ ho
      rw [horigin₃] at ho
      change s₁.origin r = some o at ho
      rw [horigin₁] at ho
      rcases update_eq_some ho with ⟨-, ho⟩ | ⟨-, ho⟩
      · rw [ho, hissued₃]
        show s₁.issued + 1 < 1 + 2 ^ 32
        rw [hissued₁]
        decide
      · cases ho)
  have hrun : Run ProxyStep (ProxyState.initial 8) [.request 0 oneHeaderRequest, .receive 0 1,
      .forward (0, 0) (), .request 1 oneHeaderRequest] s :=
    (((Run.nil.snoc hstep₁).snoc hstep₂).snoc hstep₃).snoc hstep₄
  have hinv := run_inv hrun
  have hborn : s.origin (0, 0) = some ⟨oneHeaderRequest, 1⟩ :=
    (step_extends hinv₃ hstep₄).origin _ _ (by rw [horigin₃]; exact hborn₁)
  have hempty : (s.clients ()).callbacks = [] := by
    rw [hclients, hlog₃]
    show (s₁.clients ()).callbacks = []
    rw [hclients₁]
    rfl
  -- the response comes in, is taken from the queue and written
  rw [← hclients] at hentry
  obtain ⟨s', hresponse, hstreams, isEnd', hcall⟩ := response_possible
    oneHeaderResponse_returnable hentry
  rw [hempty] at hcall
  obtain ⟨a', ha'⟩ := hinv.started _ _ hborn
  obtain ⟨t', hreply⟩ := reply_possible (step_inv hinv hresponse) oneHeaderResponse_returnable
    hcall (by rw [hstreams]; exact ha')
  refine ⟨s, s', t', hrun, hresponse, hreply, ?_⟩
  obtain ⟨o, ho, hwritten⟩ := ((responses_correlated hrun).2 () _ s' hresponse).2
    ⟨(), (0, 0), Origin.id 8 ⟨oneHeaderRequest, 1⟩⟩
    ⟨by rw [hforwarded]; exact hsent, rfl, by decide, by
      intro o ho
      rw [hborn] at ho
      cases ho
      rw [hissued, hissued₃]
      show s₁.issued + 1 < 1 + 2 ^ 32
      rw [hissued₁]
      decide⟩
  rw [hborn] at ho
  cases ho
  refine hwritten [] s' 0 t' .nil hreply (by rw [hempty]; exact Nat.le_refl 0) ?_
  exact (List.getElem?_eq_some_iff.mp hcall).1

end Mosn.Proxy
