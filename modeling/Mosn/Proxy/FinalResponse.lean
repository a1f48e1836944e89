/-
  Mosn.Proxy.FinalResponse
  **HOW OFTEN A RESPONSE IS ENDED.**

  A response can be ended by the upstream, by a route or a pool that is not
  there, by two timeouts, by a decode error, by a failed retry and by a
  filter.  Nothing keeps them apart but `upstreamProcessDone`: whoever ends a
  response sets it, and some of them look at it first.

    • `finals_le_one` — when every call is timely, no response is ended twice,
    • `lateResponse_ends_twice` — otherwise one can be.
-/
import Mosn.Proxy.Release

namespace Mosn.Proxy.Lifecycle

open Mosn.Lib Mosn.Types

/-! ## §1. Calls that send nothing. -/

/-- The call ends the response. -/
def Sent.isFinal : Sent → Bool
  | .headers _ endStream => endStream
  | .data endStream => endStream
  | .trailers => true

namespace DownStream

/-- How many calls of the response sender have ended the response. -/
def finals (s : DownStream) : Nat := s.sent.countP Sent.isFinal

/-- A call that does not send anything to the client. -/
structure Silent (s s' : DownStream) : Prop where
  sent : s'.sent = s.sent
  started : s'.downstreamResponseStarted = s.downstreamResponseStarted
  done : s.upstreamProcessDone = true → s'.upstreamProcessDone = true

/-- A call without an effect outside of the stream: nor does it make an upstream
request, or write to a header map that is not the stream's any more. -/
structure Inert (s s' : DownStream) : Prop extends Silent s s' where
  requests : s'.upstreamRequests = s.upstreamRequests
  writes : s'.recycledWrites = s.recycledWrites

section Rules

variable {s s' s'' : DownStream}

theorem Silent.refl (s : DownStream) : Silent s s := ⟨rfl, rfl, id⟩

theorem Silent.trans (h : Silent s s') (h' : Silent s' s'') : Silent s s'' :=
  ⟨h'.sent.trans h.sent, h'.started.trans h.started, h'.done ∘ h.done⟩

theorem Silent.finals (h : Silent s s') : s'.finals = s.finals :=
  congrArg (List.countP Sent.isFinal) h.sent

theorem Inert.refl (s : DownStream) : Inert s s := ⟨.refl s, rfl, rfl⟩

theorem Inert.trans (h : Inert s s') (h' : Inert s' s'') : Inert s s'' :=
  ⟨h.toSilent.trans h'.toSilent, h'.requests.trans h.requests, h'.writes.trans h.writes⟩

theorem Upkeep.inert (h : Upkeep s s') : Inert s s' := by
  simp only [Upkeep, core, life, Prod.mk.injEq] at h
  obtain ⟨⟨-, -, -, hdone, -⟩, hsent, hstarted, -, hrequests, -, hwrites⟩ := h
  exact ⟨⟨hsent, hstarted, hdone.trans⟩, hrequests, hwrites⟩

theorem Upkeep.upstreamReset (h : Upkeep s s') : s'.upstreamReset = s.upstreamReset :=
  congrArg (fun c => c.2.2.2.1) h

theorem Upkeep.silent (h : Upkeep s s') : Silent s s' := h.inert.toSilent

end Rules

variable (s : DownStream)

theorem offer_inert (direction : Direction) (body : EventBody) :
    Inert s (s.offer direction body) := by
  unfold offer
  dsimp only
  split
  · exact ⟨⟨rfl, rfl, id⟩, rfl, rfl⟩
  · exact ⟨⟨rfl, rfl, id⟩, rfl, rfl⟩

theorem cleanStream_inert : Inert s s.cleanStream := by
  cases hc : s.downstreamCleaned with
  | true =>
    rw [s.cleanStream_again hc]
    exact Inert.refl s
  | false =>
    obtain ⟨t, hupkeep, heq⟩ := s.cleanStream_open hc
    rw [heq]
    have hmarked : Inert s { s with downstreamCleaned := true } := ⟨⟨rfl, rfl, id⟩, rfl, rfl⟩
    exact (hmarked.trans hupkeep.inert).trans ⟨⟨rfl, rfl, id⟩, rfl, rfl⟩

theorem endStream_inert : Inert s s.endStream := by
  unfold endStream
  split
  · have hdone : Inert s { s with upstreamProcessDone := true } :=
      ⟨⟨rfl, rfl, fun _ => rfl⟩, rfl, rfl⟩
    exact hdone.trans (offer_inert _ .downstream _)
  · exact s.cleanStream_inert

theorem resetStream_inert : Inert s s.resetStream := by
  unfold resetStream
  split
  · exact Inert.refl s
  · have hreset : Inert s { s with downstreamReset := true } := ⟨⟨rfl, rfl, id⟩, rfl, rfl⟩
    exact hreset.trans (cleanStream_inert _)

theorem markDone_inert : Inert s s.markDone := ⟨⟨rfl, rfl, id⟩, rfl, rfl⟩

theorem modifyFilter_inert (i : Nat) (f : ReceiverFilter → ReceiverFilter) :
    Inert s (s.modifyFilter i f) := ⟨⟨rfl, rfl, id⟩, rfl, rfl⟩

theorem newUpstreamRequest_silent (ask : Ask) (endStream : Bool) :
    Silent s (s.newUpstreamRequest ask endStream) := by
  have hset : ∀ r, Silent s { s with
      upstreamRequests := s.upstreamRequests + 1, upstreamRequest := some r } :=
    fun r => ⟨rfl, rfl, id⟩
  unfold newUpstreamRequest
  dsimp only
  split
  · exact hset _
  · exact (hset _).trans (offer_inert _ .upstream _).toSilent

theorem cleanIfDone_inert : Inert s (if s.upstreamProcessDone then s.cleanStream else s) := by
  split
  · exact s.cleanStream_inert
  · exact Inert.refl s

/-! ## §2. One end of a response. -/

/-- The response was ended at most once, and then it is marked as finished. -/
structure Guarded (s : DownStream) : Prop where
  once : s.finals ≤ 1
  marked : s.finals ≠ 0 → s.upstreamProcessDone = true

section Rules

variable {s s' : DownStream}

theorem Guarded.of_unended (h : s.finals = 0) : s.Guarded :=
  ⟨by omega, fun hne => absurd h hne⟩

theorem Guarded.unended (h : s.Guarded) (hdone : s.upstreamProcessDone = false) : s.finals = 0 := by
  by_contra hne
  exact absurd (hdone.symm.trans (h.marked hne)) Bool.false_ne_true

theorem Guarded.silent (h : s.Guarded) (hs : Silent s s') : s'.Guarded := by
  refine ⟨?_, ?_⟩
  · rw [hs.finals]
    exact h.once
  · intro hne
    rw [hs.finals] at hne
    exact hs.done (h.marked hne)

theorem Guarded.inert (h : s.Guarded) (hs : Inert s s') : s'.Guarded := h.silent hs.toSilent

end Rules

variable (s : DownStream)

theorem endStream_done : s.endStream.upstreamProcessDone = true := by
  unfold endStream
  split
  · exact (offer_inert _ .downstream _).done rfl
  next hboth =>
    refine s.cleanStream_inert.done ?_
    grind

theorem finals_append (what : Sent) :
    finals { s with sent := s.sent ++ [what] } = s.finals + what.isFinal.toNat := by
  unfold finals
  grind

theorem sending_finals (what : Sent) :
    finals (if what.isFinal then endStream { s with sent := s.sent ++ [what] }
      else { s with sent := s.sent ++ [what] }) = s.finals + what.isFinal.toNat := by
  split
  · rw [(endStream_inert _).finals]
    exact s.finals_append what
  · exact s.finals_append what

/-- **The first end of a response.** -/
theorem sending_guarded {s : DownStream} (h : s.finals = 0) (what : Sent) :
    Guarded (if what.isFinal then endStream { s with sent := s.sent ++ [what] }
      else { s with sent := s.sent ++ [what] }) := by
  have hfinals := s.sending_finals what
  rw [h, Nat.zero_add] at hfinals
  refine ⟨?_, ?_⟩
  · rw [hfinals]
    exact Bool.toNat_le _
  · grind [endStream_done]

section Unended

variable {s : DownStream} (h : s.finals = 0)
include h

theorem appendHeaders_guarded (code : Option Int) (endStream : Bool) :
    (s.appendHeaders code endStream).Guarded :=
  sending_guarded (s := { s with upstreamProcessDone := endStream }) h (.headers code endStream)

theorem appendData_guarded (endStream : Bool) : (s.appendData endStream).Guarded :=
  sending_guarded (s := { s with upstreamProcessDone := endStream }) h (.data endStream)

theorem appendTrailers_guarded : s.appendTrailers.Guarded :=
  sending_guarded (s := { s with upstreamProcessDone := true }) h .trailers

theorem sendHijackReply_guarded (code : Int) : (s.sendHijackReply code).Guarded :=
  appendHeaders_guarded h (some code) true

theorem hijackRequest_guarded (code : Int) : (s.hijackRequest code).Guarded :=
  sendHijackReply_guarded (s := { s with
    recycledWrites := if s.recycled then s.recycledWrites + 1 else s.recycledWrites }) h code

theorem forwardHeaders_guarded (endStream : Bool) : (s.forwardHeaders endStream).Guarded := by
  unfold forwardHeaders
  dsimp only
  refine appendHeaders_guarded ?_ none endStream
  split
  · rw [(onUpstreamResponseRecvFinished_upkeep _).silent.finals]
    exact h
  · exact h

theorem onUpstreamData_guarded (endStream : Bool) : (s.onUpstreamData endStream).Guarded := by
  unfold onUpstreamData
  refine appendData_guarded ?_ endStream
  split
  · rw [s.onUpstreamResponseRecvFinished_upkeep.silent.finals]
    exact h
  · exact h

theorem onUpstreamTrailers_guarded : s.onUpstreamTrailers.Guarded := by
  refine appendTrailers_guarded ?_
  rw [s.onUpstreamResponseRecvFinished_upkeep.silent.finals]
  exact h

theorem onUpstreamHeaders_guarded {s' : DownStream} {ask : Ask} {headers : HeaderMap}
    {endStream : Bool} (hok : s.onUpstreamHeaders ask headers endStream = .ok s') : s'.Guarded := by
  obtain ⟨t, hupkeep, hcases⟩ := onUpstreamHeaders_cases hok
  have ht : t.finals = 0 := hupkeep.silent.finals.trans h
  rcases hcases with rfl | rfl
  · exact .of_unended ht
  · exact forwardHeaders_guarded ht endStream

end Unended

variable {s s' : DownStream} {ask : Ask}

theorem onDecodeError_guarded (h : s.Guarded) (err : GoError) : (s.onDecodeError err).Guarded := by
  unfold onDecodeError
  split
  · exact h
  next hdone =>
    have hunended := h.unended (Bool.not_eq_true _ ▸ hdone)
    exact (sendHijackReply_guarded hunended _).inert (offer_inert _ .downstream _)

/-! ## §3. Giving up on an upstream. -/

/-- `onUpstreamReset` has nothing to say to the client, or the response is not
finished. -/
def mayGiveUp (s : DownStream) : Bool :=
  s.upstreamReset || s.downstreamResponseStarted || !s.upstreamProcessDone

theorem giveUp_guarded (h : s.Guarded)
    (hmay : s.downstreamResponseStarted = true ∨ s.finals = 0) (urtype : UpstreamResetType) :
    (s.giveUp urtype).Guarded := by
  have hcleanUp := s.cleanUp_upkeep.silent
  unfold giveUp
  dsimp only
  split
  · exact (h.silent hcleanUp).inert (endStream_inert _)
  next hstarted =>
    refine hijackRequest_guarded ?_ _
    rw [hcleanUp.finals]
    rcases hmay with hmay | hmay
    · exact absurd (hcleanUp.started.trans hmay) hstarted
    · exact hmay

theorem onUpstreamReset_guarded {urtype : UpstreamResetType}
    {reason : StreamResetReason} (h : s.Guarded) (hmay : s.mayGiveUp = true)
    (hok : s.onUpstreamReset ask urtype reason = .ok s') : s'.Guarded := by
  rcases onUpstreamReset_cases hok with ⟨-, rfl⟩ | ⟨hreset, t, hupkeep, hcases⟩
  · exact h
  · -- what comes before giving up sends nothing
    have hset : Silent s { s with upstreamReset := true } := ⟨rfl, rfl, id⟩
    have hsilent := hset.trans hupkeep.silent
    rcases hcases with rfl | ⟨rfl, -⟩
    · refine giveUp_guarded (h.silent hsilent) ?_ urtype
      simp only [mayGiveUp, hreset, Bool.false_or, Bool.or_eq_true, Bool.not_eq_true'] at hmay
      rw [hsilent.started, hsilent.finals]
      exact hmay.imp_right h.unended
    · exact h.silent hsilent

theorem Upkeep.mayGiveUp (h : Upkeep s s') : s'.mayGiveUp = s.mayGiveUp := by
  have hdone : s'.upstreamProcessDone = s.upstreamProcessDone :=
    congrArg (fun c => c.1.2.2.2.1) h
  unfold DownStream.mayGiveUp
  rw [hdone, h.silent.started, h.upstreamReset]

theorem initializeUpstreamConnectionPool_found
    (hcluster : (ask s).clusterSnapshot = true) (hpool : (ask s).connPool = true) :
    s.initializeUpstreamConnectionPool ask = (true, s) := by
  unfold initializeUpstreamConnectionPool
  rw [hcluster, hpool]
  rfl

theorem doRetry_silent (hcluster : (ask s).clusterSnapshot = true) (hpool : (ask s).connPool = true)
    (hok : s.doRetry ask = .ok s') : Silent s s' := by
  rcases doRetry_cases hok with ⟨endStream, -, hupkeep⟩ | ⟨code, hnone, -⟩
  · exact (s.newUpstreamRequest_silent ask endStream).trans hupkeep.silent
  · rw [initializeUpstreamConnectionPool_found hcluster hpool] at hnone
    cases hnone

end DownStream

/-! ## §4. Through the filters. -/

/-- The reply ends the response. -/
def FilterReply.isFinal : FilterReply → Bool
  | .appendHeaders endStream => endStream
  | .appendData endStream => endStream
  | .appendTrailers => true
  | .resetStream => false

/-- How often the filter ends the response. -/
def FilterCall.finals {σ : Type} (call : FilterCall σ) : Nat :=
  call.replies.countP FilterReply.isFinal

/-- The filter ends the response at most once, and not when it lets the request
go on. -/
def FilterCall.Decent {σ : Type} (call : FilterCall σ) (goOn : σ) : Prop :=
  call.finals ≤ 1 ∧ (call.status = goOn → call.finals = 0)

/-- Every filter is decent. -/
structure Ask.Decent (ask : Ask) : Prop where
  onDecodeHeaders : ∀ s i, ((ask s).onDecodeHeaders i).Decent .continue_
  onDecodeData : ∀ s i, ((ask s).onDecodeData i).Decent .continue_
  onDecodeTrailers : ∀ s i, ((ask s).onDecodeTrailers i).Decent .continue_

namespace DownStream

/-- The response is ended `n` times by filters, and then marked as finished. -/
@[local grind cases]
structure Replied (n : Nat) (s s' : DownStream) : Prop where
  finals : s'.finals = s.finals + n
  marked : n ≠ 0 → s'.upstreamProcessDone = true
  done : s.upstreamProcessDone = true → s'.upstreamProcessDone = true

theorem Inert.replied {s s' : DownStream} (h : Inert s s') : Replied 0 s s' :=
  ⟨h.finals, fun hne => absurd rfl hne, h.done⟩

theorem Replied.trans {n m : Nat} {s s' s'' : DownStream} (h : Replied n s s')
    (h' : Replied m s' s'') : Replied (n + m) s s'' := by
  refine ⟨?_, ?_, h'.done ∘ h.done⟩
  · rw [h'.finals, h.finals, Nat.add_assoc]
  · grind

theorem sending_replied (s : DownStream) (what : Sent) : Replied what.isFinal.toNat s
      (if what.isFinal then endStream { s with sent := s.sent ++ [what] }
        else { s with sent := s.sent ++ [what] }) := by
  refine ⟨s.sending_finals what, ?_, ?_⟩
  · grind [endStream_done]
  · intro hdone
    split
    · exact endStream_done _
    · exact hdone

theorem reply_replied (s : DownStream) (r : FilterReply) :
    Replied r.isFinal.toNat s (s.reply r) := by
  cases r with
  | appendHeaders endStream => exact s.sending_replied (.headers none endStream)
  | appendData endStream => exact s.sending_replied (.data endStream)
  | appendTrailers => exact s.sending_replied .trailers
  | resetStream => exact s.endStream_inert.replied

theorem replies_replied (replies : List FilterReply) :
    ∀ s : DownStream, Replied (replies.countP FilterReply.isFinal) s (replies.foldl reply s) := by
  induction replies with
  | nil => exact fun s => (Inert.refl s).replied
  | cons r rest ih =>
    -- each reply adds its own end to those of the rest
    intro s
    have hboth := (s.reply_replied r).trans (ih (s.reply r))
    have hcount : (r :: rest).countP FilterReply.isFinal
        = r.isFinal.toNat + rest.countP FilterReply.isFinal := by
      grind
    rw [hcount]
    exact hboth

theorem called_replied {σ : Type} (s : DownStream) (i : Nat) (call : FilterCall σ) :
    Replied call.finals s (s.called i call) := by
  have hreplies := replies_replied call.replies s
  unfold called
  dsimp only
  split
  · exact ⟨hreplies.finals, hreplies.marked, hreplies.done⟩
  · exact hreplies

section Decent

variable {σ : Type} {s : DownStream} {call : FilterCall σ} {goOn : σ} (h : s.finals = 0)
  (hdecent : call.Decent goOn) (i : Nat)
include h hdecent

theorem called_guarded : (s.called i call).Guarded := by
  have hreplied := s.called_replied i call
  have hfinals := hreplied.finals
  rw [h, Nat.zero_add] at hfinals
  refine ⟨?_, ?_⟩
  · rw [hfinals]
    exact hdecent.1
  · rw [hfinals]
    exact hreplied.marked

theorem called_unended (hstatus : call.status = goOn) : (s.called i call).finals = 0 := by
  rw [(s.called_replied i call).finals, h, hdecent.2 hstatus]

end Decent

section Filters

variable {ask : Ask} (hask : ask.Decent)
include hask

theorem runReceiveHeadersFilters_guarded {s : DownStream} (h : s.finals = 0) (index : Nat) :
    (s.runReceiveHeadersFilters ask index).2.Guarded
      ∧ ((s.runReceiveHeadersFilters ask index).1 = false →
        (s.runReceiveHeadersFilters ask index).2.finals = 0) := by
  have hdecent := hask.onDecodeHeaders s index
  unfold runReceiveHeadersFilters
  split
  · dsimp only
    split
    · exact ⟨(called_guarded h hdecent index).inert (modifyFilter_inert _ _ _),
        fun hgo => absurd hgo.symm Bool.false_ne_true⟩
    next hstatus =>
      have hunended := called_unended h hdecent index hstatus
      exact ⟨.of_unended hunended, fun _ => hunended⟩
  · exact ⟨.of_unended h, fun _ => h⟩

theorem doReceiveHeaders_guarded {s : DownStream} (h : s.finals = 0) (index : Nat)
    (endStream : Bool) : (s.doReceiveHeaders ask index endStream).Guarded := by
  have hfilters := runReceiveHeadersFilters_guarded hask h index
  obtain ⟨stopped, t, hran, hcases⟩ := s.doReceiveHeaders_cases ask index endStream
  rw [hran] at hfilters
  rcases hcases with ⟨-, heq⟩ | ⟨rfl, hcases⟩
  · rw [heq]
    exact hfilters.1
  · -- a filter that lets the headers pass has not ended the response
    have ht : t.finals = 0 := hfilters.2 rfl
    rcases hcases with ⟨code, heq⟩ | ⟨u, hset, hsent⟩
    · rw [heq]
      exact hijackRequest_guarded ht code
    · exact (Guarded.of_unended ht).silent
        ((hset.silent.trans (u.newUpstreamRequest_silent ask endStream)).trans hsent.silent)

theorem receiveDataFilters_guarded (behind : Nat) : ∀ (index : Nat) {s : DownStream},
    s.finals = 0 → (receiveDataFilters ask behind index s).stream.Guarded := by
  induction behind with
  | zero => exact fun _ _ h => .of_unended h
  | succ behind ih =>
    intro index s h
    -- only a filter that lets the data pass is followed by another one
    have hdecent := hask.onDecodeData s index
    have hstopped : ∀ f,
        ((s.called index ((ask s).onDecodeData index)).modifyFilter index f).Guarded :=
      fun f => (called_guarded h hdecent index).inert (modifyFilter_inert _ index f)
    have hbuf : ∀ t : DownStream, Upkeep t { t with downstreamReqDataBuf := true } := fun _ => rfl
    unfold receiveDataFilters
    dsimp only
    split
    next hstatus =>
      have hunended := called_unended h hdecent index hstatus
      split
      · exact .of_unended hunended
      · exact ih (index + 1) hunended
    · exact hstopped _
    · exact (hstopped _).inert (hbuf _).inert

theorem receiveTrailersFilters_guarded (behind : Nat) : ∀ (index : Nat) {s : DownStream},
    s.finals = 0 → (receiveTrailersFilters ask behind index s).stream.Guarded := by
  induction behind with
  | zero => exact fun _ _ h => .of_unended h
  | succ behind ih =>
    intro index s h
    have hdecent := hask.onDecodeTrailers s index
    unfold receiveTrailersFilters
    dsimp only
    split
    next hstatus =>
      have hunended := called_unended h hdecent index hstatus
      split
      · exact .of_unended hunended
      · exact ih (index + 1) hunended
    · exact called_guarded h hdecent index

theorem continueHeaders_guarded {s : DownStream} (h : s.finals = 0) (index : Nat) :
    (s.continueHeaders ask index).Guarded := by
  unfold continueHeaders
  split
  · exact .of_unended h
  · exact doReceiveHeaders_guarded hask (s := s.modifyFilter index _) h _ _

variable {s s' : DownStream}

/-- **What goes through the filters looks at the mark.** -/
theorem guarded_passes : Passes ask fun s s' => s.Guarded → s'.Guarded where
  trans := fun h h' => h' ∘ h
  upkeep := fun h hguarded => hguarded.inert h.inert
  data := fun behind index _ hdone h =>
    receiveDataFilters_guarded hask behind index (h.unended hdone)
  trailers := fun behind index _ hdone h =>
    receiveTrailersFilters_guarded hask behind index (h.unended hdone)
  headers := fun index s hdone h =>
    continueHeaders_guarded hask (s := s.modifyFilter index _) (h.unended hdone) index
  clean := fun s h => h.inert s.cleanIfDone_inert

theorem receiveHeaders_guarded (h : s.finals = 0) (endStream : Bool) :
    (s.receiveHeaders ask endStream).Guarded :=
  doReceiveHeaders_guarded hask
    (s := { s with downstreamRecvDone := endStream, downstreamReqHeaders := true }) h 0 endStream

end Filters

/-! ## §5. Whole runs. -/

/-- The handler of the event looks at the mark, or the response is not
finished. -/
def timelyEvent (s : DownStream) (e : Event Unit) : Bool :=
  match e.direction, e.body with
  | .downstream, .receiveHeaders _ _ => !s.upstreamProcessDone
  | .upstream, .receiveHeaders _ _ => !s.upstreamProcessDone
  | .upstream, .receiveData _ _ => !s.upstreamProcessDone
  | .upstream, .receiveTrailer _ => !s.upstreamProcessDone
  | .upstream, .reset _ => s.mayGiveUp
  | _, _ => true

/-- The same for the callback of a timer; a retry needs a pool. -/
def timelyCallback (s : DownStream) (ask : Ask) : TimerCallback → Bool
  | .onResponseTimeout => s.mayGiveUp
  | .onPerReqTimeout => s.mayGiveUp
  | .doRetry => (ask s).clusterSnapshot && (ask s).connPool

/-- The same for every call; the dispatcher drops the events of a stream that
is not open. -/
def timely (s : DownStream) : Action → Bool
  | .control _ => s.ctrlChan.head?.all fun e => !s.isOpen || s.timelyEvent e
  | .job _ => s.jobChan.head?.all fun e => !s.isOpen || s.timelyEvent e
  | .fire t ask => ({ s with timers := s.timers.erase t }).timelyCallback ask t.callback
  | _ => true

end DownStream

/-- The filters that are called are decent. -/
def Action.Decent : Action → Prop
  | .control ask => ask.Decent
  | .job ask => ask.Decent
  | .continueDecoding _ ask => ask.Decent
  | _ => True

namespace DownStream

variable {s s' : DownStream}

variable {ask : Ask} {e : Event Unit}

theorem handle_guarded (hask : ask.Decent) (h : s.Guarded)
    (htimely : s.timelyEvent e = true) (hok : s.handle ask e.direction e.body = .ok s') :
    s'.Guarded := by
  unfold timelyEvent at htimely
  unfold handle at hok
  split at hok
  next =>
    cases hok
    exact h.inert s.resetStream_inert
  next hdirection hbody =>
    -- `ReceiveHeaders` is the only handler of the request that does not look
    cases hok
    rw [hdirection, hbody] at htimely
    exact receiveHeaders_guarded hask (h.unended (Bool.not_eq_true' _ ▸ htimely)) _
  next => exact (guarded_passes hask).receiveData hok h
  next => exact (guarded_passes hask).receiveTrailers hok h
  next hdirection hbody =>
    -- none of the handlers of the response does
    rw [hdirection, hbody] at htimely
    split at hok
    next r _ =>
      have hdrop : Upkeep s { s with upstreamRequest := some r.dropSender } := rfl
      exact onUpstreamReset_guarded (h.inert hdrop.inert) htimely hok
    next => cases hok
  next hdirection hbody =>
    rw [hdirection, hbody] at htimely
    split at hok
    · exact onUpstreamHeaders_guarded (h.unended (Bool.not_eq_true' _ ▸ htimely)) hok
    · cases hok
  next hdirection hbody =>
    rw [hdirection, hbody] at htimely
    split at hok
    · cases hok
      exact onUpstreamData_guarded (h.unended (Bool.not_eq_true' _ ▸ htimely)) _
    · cases hok
  next hdirection hbody =>
    rw [hdirection, hbody] at htimely
    split at hok
    · cases hok
      exact onUpstreamTrailers_guarded (h.unended (Bool.not_eq_true' _ ▸ htimely))
    · cases hok
  next =>
    cases hok
    exact h

theorem event_guarded (hask : ask.Decent) (h : s.Guarded)
    (htimely : (!s.isOpen || s.timelyEvent e) = true) (hok : s.eventProcess ask e = .ok s') :
    s'.Guarded := by
  rcases eventProcess_cases hok with ⟨-, rfl⟩ | ⟨-, rfl⟩
    | ⟨-, -, ⟨-, rfl⟩ | ⟨hopen, t, hhandle, rfl⟩⟩
  · exact ⟨h.once, h.marked⟩
  · exact ⟨h.once, h.marked⟩
  · exact h
  · -- the dispatcher's own mark is set after the handler
    rw [hopen, Bool.not_true, Bool.false_or] at htimely
    exact (handle_guarded hask h htimely hhandle).inert t.markDone_inert

theorem timerCallback_guarded {callback : TimerCallback} (h : s.Guarded)
    (htimely : s.timelyCallback ask callback = true)
    (hok : s.timerCallback ask callback = .ok s') : s'.Guarded := by
  rcases timerCallback_cases hok
    with ⟨rfl, hretry⟩ | ⟨hne, ⟨-, rfl⟩ | ⟨t, urtype, hupkeep, hreset⟩⟩
  · obtain ⟨hcluster, hpool⟩ := Bool.and_eq_true_iff.mp htimely
    exact h.silent (doRetry_silent hcluster hpool hretry)
  · exact h
  · have hmay : s.mayGiveUp = true := by
      cases callback with
      | doRetry => exact absurd rfl hne
      | onResponseTimeout | onPerReqTimeout => exact htimely
    exact onUpstreamReset_guarded (h.silent hupkeep.silent) (hupkeep.mayGiveUp.trans hmay) hreset

/-- **What one call does to the count.** -/
theorem Guarded.step {a : Action} (h : s.Guarded) (hdecent : a.Decent)
    (htimely : s.timely a = true) (hstep : Step s a s') : s'.Guarded := by
  cases hstep.happens with
  | offer t direction body hupkeep _ _ heq =>
    rw [heq]
    exact h.inert (hupkeep.inert.trans (t.offer_inert direction body))
  | upkeep hupkeep => exact h.inert hupkeep.inert
  | onDecodeError err heq =>
    rw [heq]
    exact onDecodeError_guarded h err
  | control ask e rest hctrl hevent =>
    simp only [timely, hctrl, List.head?_cons, Option.all_some] at htimely
    have htaken : Guarded { s with ctrlChan := rest, polled := false } := ⟨h.once, h.marked⟩
    exact event_guarded hdecent htaken htimely hevent
  | job ask e rest hjob hevent =>
    simp only [timely, hjob, List.head?_cons, Option.all_some] at htimely
    have htaken : Guarded { s with jobChan := rest, polled := false } := ⟨h.once, h.marked⟩
    exact event_guarded hdecent htaken htimely hevent
  | fire t ask hok =>
    have hfired : Guarded { s with timers := s.timers.erase t } := ⟨h.once, h.marked⟩
    exact timerCallback_guarded hfired htimely hok
  | continueDecoding index ask hok =>
    have hcalled : Guarded { s with continuations := s.continuations.erase index } :=
      ⟨h.once, h.marked⟩
    exact (guarded_passes hdecent).doContinue hok hcalled
  | other o heq =>
    rw [heq]
    exact ⟨h.once, h.marked⟩

theorem newStream_guarded (streamID : GoString) (filters : Nat) :
    (newStream streamID filters).Guarded := .of_unended rfl

/-- **At most one end of a response.**  In every order of calls, with every
answer of routers and pools and every retry policy: when the filters are decent
and every call is timely, no response is ended twice. -/
theorem finals_le_one {streamID : GoString} {filters : Nat} {as : List Action}
    (hrun : Run Step (newStream streamID filters) as s) (hdecent : ∀ a ∈ as, a.Decent)
    (htimely : EveryStep Step (fun t a => t.timely a = true) (newStream streamID filters) as) :
    s.finals ≤ 1 := by
  have hboth : EveryStep Step (fun t a => a.Decent ∧ t.timely a = true)
      (newStream streamID filters) as := by
    intro before a after t has hbefore
    have hmem : a ∈ as := has ▸ List.mem_append_right before List.mem_cons_self
    exact ⟨hdecent a hmem, htimely before a after t has hbefore⟩
  have hguarded : s.Guarded :=
    hrun.guarded Guarded (fun _ _ _ h hP hstep => h.step hP.1 hP.2 hstep)
      (newStream_guarded streamID filters) hboth
  exact hguarded.once

/-- A request without a body is sent; there is a global timeout. -/
def timedRequest : List Action :=
  [.onReceiveHeaders ∅ true, .control fun _ => {}, .poll,
    .job fun _ => { route := some ⟨⟨60, 0⟩, false, 0⟩ }]

/-- It is answered, and with a body. -/
def answeredInTime : List Action :=
  timedRequest ++ [.upstreamHeaders ∅ false, .poll, .job fun _ => {}, .upstreamData [1] true,
    .poll, .job fun _ => {}]

theorem decent_lookingOn (route : Option Route) : Ask.Decent fun _ => { route := route } :=
  ⟨fun _ _ => ⟨Nat.zero_le 1, fun _ => rfl⟩, fun _ _ => ⟨Nat.zero_le 1, fun _ => rfl⟩,
    fun _ _ => ⟨Nat.zero_le 1, fun _ => rfl⟩⟩

theorem answeredInTime_ends_once : ∃ s, Run Step (newStream (str "7") 1) answeredInTime s
      ∧ s.sent = [.headers none false, .data true] ∧ s.finals ≤ 1 := by
  obtain ⟨s, hrun, hsent⟩ : ∃ s, Run Step (newStream (str "7") 1) answeredInTime s
      ∧ s.sent = [.headers none false, .data true] := ⟨_, run_of_runSteps (f := step) rfl, rfl⟩
  have hdecent : ∀ a ∈ answeredInTime, a.Decent := by
    simp [answeredInTime, timedRequest, Action.Decent, decent_lookingOn]
  have htimely : checkSteps step timely (newStream (str "7") 1) answeredInTime = true := rfl
  exact ⟨s, hrun, hsent,
    finals_le_one hrun hdecent (everyStep_of_checkSteps (fun _ _ h => h) htimely)⟩

/-- **A response that comes with the timeout ends twice**: the timer tells the
client when the dispatcher is about to take the response. -/
theorem lateResponse_ends_twice : ∃ s, Run Step (newStream (str "7") 0)
        (timedRequest ++ [.upstreamHeaders ∅ true, .poll,
          .fire ⟨0, .onResponseTimeout, false⟩ fun _ => {}, .job fun _ => {}]) s
      ∧ s.sent = [.headers (some timeoutExceptionCode) true, .headers none true]
      ∧ s.finals = 2 :=
  ⟨_, run_of_runSteps (f := step) rfl, rfl, rfl⟩

end DownStream

end Mosn.Proxy.Lifecycle
