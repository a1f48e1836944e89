/-
  Mosn.Proxy.Release
  **WHICH FINISHED STREAMS ARE RELEASED.**

  A stream is released by `cleanStream`.  `endStream` calls it at once only
  when the request has been received and the response was marked as finished;
  otherwise it finishes the stream and leaves the rest to a reset event.  The
  dispatcher drops that event when the stream is marked as done, and it marks
  a stream as done after every event that leaves it finished.

    • `finished_released` — where no reset is dropped, a finished stream with
      nothing pending is released.
-/
import Mosn.Proxy.DownStream

namespace Mosn.Proxy.Lifecycle

open Mosn.Lib Mosn.Types

/-! ## §1. What a call can do. -/

/-- The event resets the stream. -/
def IsReset (e : Event Unit) : Prop := e.direction = .downstream ∧ ∃ reason, e.body = .reset reason

namespace DownStream

attribute [local grind] markDone

@[local grind]
def ResetPending (s : DownStream) : Prop := ∃ e ∈ s.ctrlChan, IsReset e

@[local grind]
def StopPending (s : DownStream) : Prop := ∃ e ∈ s.ctrlChan, e.body = .stop

/-- What `cleanStream` takes away is there until then, and gone afterwards. -/
@[local grind cases]
structure Accounted (s : DownStream) : Prop where
  active : s.requestActive = if s.downstreamCleaned then 0 else 1
  listed : s.listed = !s.downstreamCleaned
  destroyed : s.downstreamCleaned = true → ∀ f ∈ s.receiverFilters, f.destroyed = true
  reset : s.downstreamReset = true → s.downstreamCleaned = true

/-- What a call can do to the life of a stream. -/
@[local grind cases]
structure Moves (s s' : DownStream) : Prop where
  queued : ∃ added, s'.ctrlChan = s.ctrlChan ++ added ∧ ∀ e ∈ added, e.body ≠ .start
  jobs : ∀ e ∈ s'.jobChan, e ∈ s.jobChan ∨ e.type = .normal
  entry : s'.entry = s.entry
  cleaned : s.downstreamCleaned = true → s'.downstreamCleaned = true
  /-- It does not finish the stream without cleaning or resetting it. -/
  finished : s'.upstreamProcessDone = true →
    s.upstreamProcessDone = true ∨ s'.downstreamCleaned = true ∨ s'.ResetPending
  stopped : s'.downstreamCleaned = true → s.downstreamCleaned = true ∨ s'.StopPending
  accounted : s.Accounted → s'.Accounted

/-- A call that leaves the life of the stream alone, or unfinishes it. -/
@[local grind cases]
structure Same (s s' : DownStream) : Prop where
  ctrlChan : s'.ctrlChan = s.ctrlChan
  jobChan : s'.jobChan = s.jobChan
  entry : s'.entry = s.entry
  done : s'.upstreamProcessDone = true → s.upstreamProcessDone = true
  cleaned : s'.downstreamCleaned = s.downstreamCleaned
  reset : s'.downstreamReset = s.downstreamReset
  active : s'.requestActive = s.requestActive
  listed : s'.listed = s.listed
  destroyed : s'.receiverFilters.map ReceiverFilter.destroyed
    = s.receiverFilters.map ReceiverFilter.destroyed

/-- The fields the life of a stream depends on. -/
def life (s : DownStream) :=
  (s.ctrlChan, s.jobChan, s.entry, s.upstreamProcessDone, s.downstreamCleaned, s.downstreamReset,
    s.requestActive, s.listed, s.receiverFilters)

/-- The fields that are left alone by what looks after the upstream request, its
timers and its retries. -/
def core (s : DownStream) :=
  (s.life, s.sent, s.downstreamResponseStarted, s.upstreamReset, s.upstreamRequests, s.recycled,
    s.recycledWrites)

/-- A call that only looks after the upstream request, its timers and its
retries. -/
def Upkeep (s s' : DownStream) : Prop := s'.core = s.core

section Rules

variable {s s' s'' : DownStream}

theorem Same.of_life (h : s'.life = s.life) : Same s s' := by
  simp only [life, Prod.mk.injEq] at h
  obtain ⟨hctrl, hjob, hentry, hdone, hcleaned, hreset, hactive, hlisted, hfilters⟩ := h
  exact ⟨hctrl, hjob, hentry, fun h => hdone.symm.trans h, hcleaned, hreset, hactive, hlisted,
    congrArg (List.map ReceiverFilter.destroyed) hfilters⟩

theorem Same.refl (s : DownStream) : Same s s := .of_life rfl

theorem Same.trans (h : Same s s') (h' : Same s' s'') : Same s s'' :=
  ⟨h'.ctrlChan.trans h.ctrlChan, h'.jobChan.trans h.jobChan, h'.entry.trans h.entry,
    h.done ∘ h'.done, h'.cleaned.trans h.cleaned, h'.reset.trans h.reset, h'.active.trans h.active,
    h'.listed.trans h.listed, h'.destroyed.trans h.destroyed⟩

theorem Upkeep.refl (s : DownStream) : Upkeep s s := rfl

theorem Upkeep.trans (h : Upkeep s s') (h' : Upkeep s' s'') : Upkeep s s'' := Eq.trans h' h

theorem Upkeep.same (h : Upkeep s s') : Same s s' := by
  simp only [Upkeep, core, Prod.mk.injEq] at h
  exact .of_life h.1

theorem Same.moves (h : Same s s') : Moves s s' where
  queued := ⟨[], by rw [h.ctrlChan, List.append_nil], fun e he => absurd he List.not_mem_nil⟩
  jobs := fun e he => Or.inl (h.jobChan ▸ he)
  entry := h.entry
  cleaned := fun hc => h.cleaned.trans hc
  finished := fun hdone => Or.inl (h.done hdone)
  stopped := fun hc => Or.inl (h.cleaned.symm.trans hc)
  accounted := fun ha => {
    active := by rw [h.active, h.cleaned]; exact ha.active
    listed := by rw [h.listed, h.cleaned]; exact ha.listed
    destroyed := by
      intro hc f hf
      rw [h.cleaned] at hc
      have hmem := List.mem_map_of_mem (f := ReceiverFilter.destroyed) hf
      grind
    reset := by rw [h.reset, h.cleaned]; exact ha.reset }

theorem Upkeep.moves (h : Upkeep s s') : Moves s s' := h.same.moves

theorem Moves.refl (s : DownStream) : Moves s s := (Same.refl s).moves

theorem Moves.trans (h : Moves s s') (h' : Moves s' s'') : Moves s s'' where
  queued := by grind
  jobs := by grind
  entry := h'.entry.trans h.entry
  cleaned := h'.cleaned ∘ h.cleaned
  finished := by grind
  stopped := by grind
  accounted := h'.accounted ∘ h.accounted

theorem Moves.of_life (h : s'.life = s.life) : Moves s s' := (Same.of_life h).moves

theorem Moves.set {t : DownStream} (h : Moves t s') (hset : t.life = s.life) : Moves s s' :=
  (Moves.of_life hset).trans h

end Rules

/-! ## §2. The parts of a call. -/

variable {body : EventBody} {s s' : DownStream} {endStream again : Bool} {ask : Ask}
  {headers : HeaderMap}

theorem offer_normal_moves (s : DownStream) (direction : Direction)
    (h : (⟨direction, s.streamID, (), body⟩ : Event Unit).type = .normal) :
    Moves s (s.offer direction body) := by
  simp only [offer, h]
  refine ⟨⟨[], (List.append_nil _).symm, fun e he => absurd he List.not_mem_nil⟩, ?_, rfl, id,
    Or.inl, Or.inl, fun ha => ⟨ha.active, ha.listed, ha.destroyed, ha.reset⟩⟩
  grind

theorem offer_reset_moves (s : DownStream) (direction : Direction) (reason : StreamResetReason) :
    Moves s (s.offer direction (.reset reason)) where
  queued := ⟨[⟨direction, s.streamID, (), .reset reason⟩], rfl, by
    intro e he
    rw [List.mem_singleton.mp he]
    exact EventBody.noConfusion⟩
  jobs := fun e he => Or.inl he
  entry := rfl
  cleaned := id
  finished := Or.inl
  stopped := Or.inl
  accounted := fun ha => ⟨ha.active, ha.listed, ha.destroyed, ha.reset⟩

theorem offer_moves (s : DownStream) (direction : Direction)
    (hstart : body ≠ .start) (hstop : body ≠ .stop) : Moves s (s.offer direction body) := by
  cases body with
  | start => exact absurd rfl hstart
  | stop => exact absurd rfl hstop
  | reset reason => exact s.offer_reset_moves direction reason
  | receiveHeaders | receiveData | receiveTrailer => exact s.offer_normal_moves direction rfl

theorem onResetStream_pending (s : DownStream) (reason : StreamResetReason) :
    (s.onResetStream reason).ResetPending :=
  ⟨⟨.downstream, s.streamID, (), .reset reason⟩,
    List.mem_append_right _ (List.mem_singleton_self _), rfl, reason, rfl⟩

theorem startTimer_upkeep (s : DownStream) (callback : TimerCallback) :
    Upkeep s (s.startTimer callback) := rfl

theorem stopTimer_upkeep (s : DownStream) (t : Option Nat) : Upkeep s (s.stopTimer t) := by
  cases t with
  | none => exact Upkeep.refl s
  | some id => exact rfl

theorem upstreamResetStream_upkeep (s : DownStream) : Upkeep s s.upstreamResetStream := by
  unfold upstreamResetStream
  split
  · split
    · exact rfl
    · exact Upkeep.refl s
  · exact Upkeep.refl s

theorem cleanUp_upkeep (s : DownStream) : Upkeep s s.cleanUp := by
  unfold cleanUp
  have hfirst : Upkeep s { s with
      upstreamRequest := s.upstreamRequest.map UpstreamRequest.dropSender
      retryState := s.retryState.map RetryState.reset } := rfl
  have htimer : ∀ (s : DownStream) (t : Option Nat),
      Upkeep s { s.stopTimer t with perRetryTimer := none }
        ∧ Upkeep s { s.stopTimer t with responseTimer := none } := by
    intro s t
    have hstop := stopTimer_upkeep s t
    exact ⟨hstop.trans (rfl), hstop.trans (rfl)⟩
  exact (hfirst.trans (htimer _ _).1).trans (htimer _ _).2

/-- The first `cleanStream`: timers and retries aside, it takes the stream out
of everything and offers a stop. -/
theorem cleanStream_open (s : DownStream) (h : s.downstreamCleaned = false) :
    ∃ t, Upkeep { s with downstreamCleaned := true } t
      ∧ s.cleanStream = { t with
          receiverFilters := t.receiverFilters.map ReceiverFilter.onDestroy
          requestActive := t.requestActive - 1
          ctrlChan := t.ctrlChan ++ [⟨.downstream, t.streamID, (), .stop⟩]
          listed := false
          recycled := t.recycled || t.downstreamReqHeaders } := by
  refine ⟨_, (upstreamResetStream_upkeep _).trans (cleanUp_upkeep _), ?_⟩
  unfold cleanStream
  rw [h, if_neg Bool.false_ne_true]
  rfl

theorem cleanStream_again (s : DownStream) (h : s.downstreamCleaned = true) :
    s.cleanStream = s := by
  unfold cleanStream
  rw [h, if_pos rfl]

theorem cleanStream_cleaned (s : DownStream) : s.cleanStream.downstreamCleaned = true := by
  cases hc : s.downstreamCleaned with
  | true => rw [s.cleanStream_again hc, hc]
  | false =>
    obtain ⟨t, hupkeep, heq⟩ := s.cleanStream_open hc
    rw [heq]
    exact hupkeep.same.cleaned

theorem cleanStream_accounted (s : DownStream)
    (hactive : s.requestActive = if s.downstreamCleaned then 0 else 1)
    (hlisted : s.listed = !s.downstreamCleaned)
    (hdestroyed : s.downstreamCleaned = true → ∀ f ∈ s.receiverFilters, f.destroyed = true) :
    s.cleanStream.Accounted := by
  have hcleaned := s.cleanStream_cleaned
  cases hc : s.downstreamCleaned with
  | true =>
    rw [s.cleanStream_again hc]
    exact ⟨hactive, hlisted, hdestroyed, fun _ => hc⟩
  | false =>
    obtain ⟨t, hupkeep, heq⟩ := s.cleanStream_open hc
    have hsame := hupkeep.same
    rw [hc] at hactive
    rw [heq] at hcleaned ⊢
    refine ⟨?_, ?_, ?_, fun _ => hcleaned⟩
    · grind
    · show false = !t.downstreamCleaned
      rw [hsame.cleaned]
      rfl
    · intro _ f hf
      obtain ⟨f', -, rfl⟩ := List.mem_map.mp hf
      rfl

theorem cleanStream_moves (s : DownStream) : Moves s s.cleanStream := by
  have haccounted := s.cleanStream_accounted
  cases hc : s.downstreamCleaned with
  | true =>
    rw [s.cleanStream_again hc]
    exact Moves.refl s
  | false =>
    obtain ⟨t, hupkeep, heq⟩ := s.cleanStream_open hc
    have hsame := hupkeep.same
    rw [heq] at haccounted ⊢
    refine ⟨⟨[⟨.downstream, t.streamID, (), .stop⟩], ?_, ?_⟩,
      fun e he => Or.inl (hsame.jobChan ▸ he), hsame.entry, fun _ => hsame.cleaned,
      fun hdone => Or.inl (hsame.done hdone),
      fun _ => Or.inr ⟨⟨.downstream, t.streamID, (), .stop⟩, ?_, rfl⟩,
      fun ha => haccounted ha.active ha.listed ha.destroyed⟩
    · show t.ctrlChan ++ _ = _
      rw [hsame.ctrlChan]
    · intro e he
      rw [List.mem_singleton.mp he]
      exact EventBody.noConfusion
    · exact List.mem_append_right _ (List.mem_singleton_self _)

theorem resetStream_cleaned (s : DownStream) (h : s.Accounted) :
    s.resetStream.downstreamCleaned = true := by
  unfold resetStream
  split
  next hreset => exact h.reset hreset
  next => exact cleanStream_cleaned _

theorem resetStream_moves (s : DownStream) : Moves s s.resetStream := by
  unfold resetStream
  split
  · exact Moves.refl s
  · have hmoves := cleanStream_moves { s with downstreamReset := true }
    exact ⟨hmoves.queued, hmoves.jobs, hmoves.entry, hmoves.cleaned, hmoves.finished,
      hmoves.stopped, fun ha => cleanStream_accounted _ ha.active ha.listed ha.destroyed⟩

/-- **The end of a stream** cleans it or leaves a reset. -/
theorem endStream_ends (s : DownStream) :
    s.endStream.downstreamCleaned = true ∨ s.endStream.ResetPending := by
  unfold endStream
  split
  · exact Or.inr (onResetStream_pending _ _)
  · exact Or.inl s.cleanStream_cleaned

theorem Moves.of_ends {done : Bool} (h : Moves { s with upstreamProcessDone := done } s')
    (hends : s'.downstreamCleaned = true ∨ s'.ResetPending) : Moves s s' :=
  ⟨h.queued, h.jobs, h.entry, h.cleaned, fun _ => Or.inr hends, h.stopped,
    fun ha => h.accounted ⟨ha.active, ha.listed, ha.destroyed, ha.reset⟩⟩

theorem endStream_moves (s : DownStream) : Moves s s.endStream := by
  have hends := s.endStream_ends
  unfold endStream at hends ⊢
  split at hends
  next hopen =>
    rw [if_pos hopen]
    exact Moves.of_ends (offer_reset_moves _ .downstream .localReset) hends
  next hboth =>
    rw [if_neg hboth]
    exact s.cleanStream_moves

theorem sending_moves (s : DownStream) (what : Sent) (endStream : Bool) :
    Moves s (if endStream then ({ s with sent := s.sent ++ [what] }).endStream
      else { s with sent := s.sent ++ [what] }) := by
  split
  · exact (endStream_moves _).set rfl
  · exact .of_life rfl

theorem doAppendHeaders_moves (s : DownStream) (code : Option Int) (endStream : Bool) :
    Moves s (s.doAppendHeaders code endStream) :=
  s.sending_moves (.headers code endStream) endStream

theorem doAppendData_moves (s : DownStream) (endStream : Bool) :
    Moves s (s.doAppendData endStream) :=
  s.sending_moves (.data endStream) endStream

theorem doAppendTrailers_moves (s : DownStream) : Moves s s.doAppendTrailers :=
  s.sending_moves .trailers true

theorem Moves.of_marked (h : Moves { s with upstreamProcessDone := endStream } s')
    (hends : endStream = true → s'.downstreamCleaned = true ∨ s'.ResetPending) : Moves s s' := by
  cases endStream with
  | true => exact h.of_ends (hends rfl)
  | false =>
    have hfalse : Same s { s with upstreamProcessDone := false } :=
      ⟨rfl, rfl, rfl, fun h => absurd h Bool.false_ne_true, rfl, rfl, rfl, rfl, rfl⟩
    exact hfalse.moves.trans h

theorem appendHeaders_moves (s : DownStream) (code : Option Int) (endStream : Bool) :
    Moves s (s.appendHeaders code endStream) := by
  refine (doAppendHeaders_moves _ code endStream).of_marked ?_
  rintro rfl
  exact endStream_ends _

theorem appendData_moves (s : DownStream) (endStream : Bool) :
    Moves s (s.appendData endStream) := by
  refine (doAppendData_moves _ endStream).of_marked ?_
  rintro rfl
  exact endStream_ends _

theorem appendTrailers_moves (s : DownStream) : Moves s s.appendTrailers :=
  Moves.of_ends (doAppendTrailers_moves _) (endStream_ends _)

theorem sendHijackReply_moves (s : DownStream) (code : Int) : Moves s (s.sendHijackReply code) :=
  s.appendHeaders_moves (some code) true

theorem hijackRequest_moves (s : DownStream) (code : Int) : Moves s (s.hijackRequest code) :=
  .set (sendHijackReply_moves _ code) rfl

theorem onDecodeError_moves (s : DownStream) (err : GoError) : Moves s (s.onDecodeError err) := by
  unfold onDecodeError
  split
  · exact Moves.refl s
  · exact (sendHijackReply_moves _ _).trans (offer_reset_moves _ .downstream .localReset)

/-! ## §3. Towards the upstream. -/

theorem setupPerReqTimeout_upkeep (s : DownStream) : Upkeep s s.setupPerReqTimeout := by
  unfold setupPerReqTimeout
  split
  · have hstart := (stopTimer_upkeep s s.perRetryTimer).trans
      (startTimer_upkeep _ .onPerReqTimeout)
    exact hstart.trans (rfl)
  · exact Upkeep.refl s

theorem setupGlobalTimeout_upkeep (s : DownStream) : Upkeep s s.setupGlobalTimeout := by
  unfold setupGlobalTimeout
  split
  · have hstart := (stopTimer_upkeep s s.responseTimer).trans
      (startTimer_upkeep _ .onResponseTimeout)
    exact hstart.trans (rfl)
  · exact Upkeep.refl s

theorem onUpstreamRequestSent_upkeep (s : DownStream) : Upkeep s s.onUpstreamRequestSent := by
  have hsent : Upkeep s { s with upstreamRequestSent := true } := rfl
  unfold onUpstreamRequestSent
  dsimp only
  split
  · exact (hsent.trans (setupPerReqTimeout_upkeep _)).trans (setupGlobalTimeout_upkeep _)
  · exact hsent

theorem initializeUpstreamConnectionPool_cases (s : DownStream) (ask : Ask) :
    s.initializeUpstreamConnectionPool ask = (true, s)
      ∨ ∃ code, s.initializeUpstreamConnectionPool ask = (false, s.hijackRequest code) := by
  unfold initializeUpstreamConnectionPool
  grind

theorem newUpstreamRequest_moves (s : DownStream) (ask : Ask) (endStream : Bool) :
    Moves s (s.newUpstreamRequest ask endStream) := by
  unfold newUpstreamRequest
  dsimp only
  split
  · exact .of_life rfl
  · exact (offer_reset_moves _ .upstream _).set rfl

theorem upstreamAppendData_upkeep (h : s.upstreamAppendData endStream = .ok s') : Upkeep s s' := by
  unfold upstreamAppendData at h
  split at h
  · split at h
    · cases h
      exact rfl
    · cases h
  · cases h

theorem upstreamAppendTrailers_upkeep (h : s.upstreamAppendTrailers = .ok s') : Upkeep s s' := by
  unfold upstreamAppendTrailers at h
  split at h
  · split at h
    · cases h
      exact rfl
    · cases h
  · cases h

theorem retry_upkeep {r : RetryState} {reason : Option StreamResetReason} {check : RetryCheckStatus}
    (h : s.retry ask r headers reason = .ok (check, s')) : Upkeep s s' := by
  unfold retry at h
  dsimp only at h
  split at h
  · obtain ⟨-, -, h⟩ := bind_eq_ok.mp h
    cases h
    exact (startTimer_upkeep s .doRetry).trans (rfl)
  · obtain ⟨-, -, h⟩ := bind_eq_ok.mp h
    cases h
    exact rfl
  · cases h
    exact rfl

theorem setupRetry_upkeep (h : s.setupRetry endStream = .ok (again, s')) : Upkeep s s' := by
  unfold setupRetry at h
  split at h
  · cases h
    exact Upkeep.refl s
  · have hreset : Upkeep s (if !endStream then s.upstreamResetStream else s) := by
      split
      · exact s.upstreamResetStream_upkeep
      · exact Upkeep.refl s
    generalize (if !endStream then s.upstreamResetStream else s) = t at h hreset
    dsimp only at h
    split at h
    next r _ =>
      cases h
      have hset : Upkeep t { t with upstreamRequest := some r.dropSender } := rfl
      exact ((hreset.trans hset).trans (stopTimer_upkeep _ _)).trans (rfl)
    · cases h

theorem retrying_upkeep {r : RetryState} {reason : Option StreamResetReason}
    (h : s.retrying ask r headers reason endStream = .ok (again, s')) : Upkeep s s' := by
  obtain ⟨⟨check, t⟩, hretry, h⟩ := bind_eq_ok.mp h
  dsimp only at h
  split at h
  · exact (retry_upkeep hretry).trans (setupRetry_upkeep h)
  · cases h
    exact retry_upkeep hretry

theorem giveUp_moves (s : DownStream) (urtype : UpstreamResetType) : Moves s (s.giveUp urtype) := by
  unfold giveUp
  dsimp only
  split
  · exact s.cleanUp_upkeep.moves.trans (endStream_moves _)
  · exact s.cleanUp_upkeep.moves.trans (hijackRequest_moves _ _)

/-- **`onUpstreamReset`**: only the first one counts.  It gives up, or finds that a
retry is due, which it only looks for when the response has started. -/
theorem onUpstreamReset_cases {urtype : UpstreamResetType} {reason : StreamResetReason}
    (h : s.onUpstreamReset ask urtype reason = .ok s') : (s.upstreamReset = true ∧ s' = s)
      ∨ (s.upstreamReset = false ∧ ∃ t, Upkeep { s with upstreamReset := true } t
        ∧ (s' = t.giveUp urtype ∨ s' = t ∧ s.downstreamResponseStarted = true)) := by
  unfold onUpstreamReset at h
  split at h
  next hreset =>
    cases h
    exact Or.inl ⟨hreset, rfl⟩
  next hreset =>
    refine Or.inr ⟨Bool.not_eq_true _ ▸ hreset, ?_⟩
    dsimp only at h
    split at h
    · split at h
      next hstarted =>
        obtain ⟨⟨again, t⟩, hretrying, h⟩ := bind_eq_ok.mp h
        refine ⟨t, retrying_upkeep hretrying, ?_⟩
        dsimp only at h
        split at h
        · cases h
          exact Or.inr ⟨rfl, hstarted.2⟩
        · cases h
          exact Or.inl rfl
      · cases h
        exact ⟨_, rfl, Or.inl rfl⟩
    · cases h
      exact ⟨_, rfl, Or.inl rfl⟩

theorem onUpstreamReset_moves {urtype : UpstreamResetType} {reason : StreamResetReason}
    (h : s.onUpstreamReset ask urtype reason = .ok s') : Moves s s' := by
  rcases onUpstreamReset_cases h with ⟨-, rfl⟩ | ⟨-, t, hupkeep, rfl | ⟨rfl, -⟩⟩
  · exact Moves.refl s'
  · exact (hupkeep.moves.trans (t.giveUp_moves urtype)).set rfl
  · exact hupkeep.moves.set rfl

theorem onUpstreamResponseRecvFinished_upkeep (s : DownStream) :
    Upkeep s s.onUpstreamResponseRecvFinished := by
  unfold onUpstreamResponseRecvFinished
  split
  · exact s.upstreamResetStream_upkeep.trans (cleanUp_upkeep _)
  · exact s.cleanUp_upkeep

theorem forwardHeaders_moves (s : DownStream) (endStream : Bool) :
    Moves s (s.forwardHeaders endStream) := by
  unfold forwardHeaders
  dsimp only
  refine .set (t := { s with downstreamResponseStarted := true }) ?_ rfl
  split
  · exact (onUpstreamResponseRecvFinished_upkeep _).moves.trans (appendHeaders_moves _ none _)
  · exact appendHeaders_moves _ none _

/-- **`onUpstreamHeaders`**: the response, or a retry in its place. -/
theorem onUpstreamHeaders_cases (h : s.onUpstreamHeaders ask headers endStream = .ok s') :
    ∃ t, Upkeep s t ∧ (s' = t ∨ s' = t.forwardHeaders endStream) := by
  unfold onUpstreamHeaders at h
  split at h
  · obtain ⟨⟨again, t⟩, hretrying, h⟩ := bind_eq_ok.mp h
    have hupkeep := retrying_upkeep hretrying
    dsimp only at h
    split at h
    · cases h
      exact ⟨_, hupkeep, Or.inl rfl⟩
    · cases h
      exact ⟨{ t with retryState := t.retryState.map RetryState.reset }, hupkeep, Or.inr rfl⟩
  · cases h
    exact ⟨s, rfl, Or.inr rfl⟩

theorem onUpstreamHeaders_moves
    (h : s.onUpstreamHeaders ask headers endStream = .ok s') : Moves s s' := by
  obtain ⟨t, hupkeep, rfl | rfl⟩ := onUpstreamHeaders_cases h
  · exact hupkeep.moves
  · exact hupkeep.moves.trans (t.forwardHeaders_moves endStream)

theorem onUpstreamData_moves (s : DownStream) (endStream : Bool) :
    Moves s (s.onUpstreamData endStream) := by
  unfold onUpstreamData
  split
  · exact s.onUpstreamResponseRecvFinished_upkeep.moves.trans (appendData_moves _ _)
  · exact s.appendData_moves _

theorem onUpstreamTrailers_moves (s : DownStream) : Moves s s.onUpstreamTrailers :=
  s.onUpstreamResponseRecvFinished_upkeep.moves.trans (appendTrailers_moves _)

theorem resendData_upkeep (h : s.resendData = .ok s') : Upkeep s s' := by
  unfold resendData at h
  split at h
  · exact upstreamAppendData_upkeep h
  · cases h
    exact Upkeep.refl s

theorem resendTrailers_upkeep (h : s.resendTrailers = .ok s') : Upkeep s s' := by
  unfold resendTrailers at h
  split at h
  · exact upstreamAppendTrailers_upkeep h
  · cases h
    exact Upkeep.refl s

/-- **`doRetry`**: one more upstream request, or the client is told twice that
there is no pool for it. -/
theorem doRetry_cases (h : s.doRetry ask = .ok s') :
    (∃ endStream, s.initializeUpstreamConnectionPool ask = (true, s)
      ∧ Upkeep (s.newUpstreamRequest ask endStream) s')
    ∨ ∃ code, s.initializeUpstreamConnectionPool ask = (false, s.hijackRequest code)
      ∧ s' = ((s.hijackRequest code).hijackRequest noHealthUpstreamCode).cleanUp := by
  unfold doRetry at h
  rcases s.initializeUpstreamConnectionPool_cases ask with hpool | ⟨code, hpool⟩
  · rw [hpool] at h
    obtain ⟨t, hdata, h⟩ := bind_eq_ok.mp h
    obtain ⟨u, htrailers, h⟩ := bind_eq_ok.mp h
    cases h
    exact Or.inl ⟨_, hpool, ((resendData_upkeep hdata).trans
      (resendTrailers_upkeep htrailers)).trans u.setupPerReqTimeout_upkeep⟩
  · rw [hpool] at h
    cases h
    exact Or.inr ⟨code, hpool, rfl⟩

/-- **The callback of a timer**: a retry, or a timeout, which has nothing to do or
resets the upstream. -/
theorem timerCallback_cases {callback : TimerCallback}
    (h : s.timerCallback ask callback = .ok s') :
    (callback = .doRetry ∧ s.doRetry ask = .ok s')
    ∨ callback ≠ .doRetry ∧ ((s.downstreamResponseStarted = true ∧ s' = s)
      ∨ ∃ t urtype, Upkeep s t ∧ t.onUpstreamReset ask urtype .localReset = .ok s') := by
  cases callback with
  | onResponseTimeout =>
    have hset : Upkeep s { s with responseTimer := none } := rfl
    exact Or.inr ⟨TimerCallback.noConfusion,
      Or.inr ⟨_, _, hset.trans (upstreamResetStream_upkeep _), h⟩⟩
  | onPerReqTimeout =>
    have hset : Upkeep s { s with perRetryTimer := none } := rfl
    refine Or.inr ⟨TimerCallback.noConfusion, ?_⟩
    simp only [timerCallback, onPerReqTimeout] at h
    split at h
    next hstarted =>
      cases h
      exact Or.inl ⟨hstarted, rfl⟩
    next =>
      split at h
      · cases h
      · exact Or.inr ⟨_, _, hset.trans (upstreamResetStream_upkeep _), h⟩
  | doRetry => exact Or.inl ⟨rfl, h⟩

theorem timerCallback_moves {callback : TimerCallback}
    (h : s.timerCallback ask callback = .ok s') : Moves s s' := by
  rcases timerCallback_cases h with ⟨-, hretry⟩ | ⟨-, ⟨-, rfl⟩ | ⟨t, urtype, hupkeep, hreset⟩⟩
  · rcases doRetry_cases hretry with ⟨endStream, -, hupkeep⟩ | ⟨code, -, rfl⟩
    · exact (s.newUpstreamRequest_moves ask endStream).trans hupkeep.moves
    · exact ((s.hijackRequest_moves code).trans (hijackRequest_moves _ _)).trans
        (cleanUp_upkeep _).moves
  · exact Moves.refl s'
  · exact hupkeep.moves.trans (onUpstreamReset_moves hreset)

/-! ## §4. Through the filters. -/

theorem reply_moves (s : DownStream) (r : FilterReply) : Moves s (s.reply r) := by
  cases r with
  | appendHeaders endStream => exact s.doAppendHeaders_moves none endStream
  | appendData endStream => exact s.doAppendData_moves endStream
  | appendTrailers => exact s.doAppendTrailers_moves
  | resetStream => exact s.endStream_moves

theorem replies_moves (replies : List FilterReply) :
    ∀ s : DownStream, Moves s (replies.foldl reply s) := by
  induction replies with
  | nil => exact Moves.refl
  | cons r rest ih => exact fun s => (s.reply_moves r).trans (ih _)

theorem called_moves {σ : Type} (s : DownStream) (i : Nat) (call : FilterCall σ) :
    Moves s (s.called i call) := by
  unfold called
  dsimp only
  split
  · exact (replies_moves call.replies s).trans (.of_life rfl)
  · exact replies_moves call.replies s

theorem modifyFilter_same (s : DownStream) (i : Nat) {f : ReceiverFilter → ReceiverFilter}
    (hf : ∀ a, (f a).destroyed = a.destroyed) : Same s (s.modifyFilter i f) := by
  refine ⟨rfl, rfl, rfl, id, rfl, rfl, rfl, rfl, ?_⟩
  apply List.ext_getElem?
  intro j
  show ((s.receiverFilters.modify i f).map ReceiverFilter.destroyed)[j]? = _
  rw [List.getElem?_map, List.getElem?_map, List.getElem?_modify]
  grind

theorem runReceiveHeadersFilters_moves (s : DownStream) (ask : Ask) (index : Nat) :
    Moves s (s.runReceiveHeadersFilters ask index).2 := by
  unfold runReceiveHeadersFilters
  split
  · have hcalled := s.called_moves index ((ask s).onDecodeHeaders index)
    dsimp only
    split
    · exact hcalled.trans (modifyFilter_same _ index fun _ => by rfl).moves
    · exact hcalled.trans (modifyFilter_same _ index fun _ => by rfl).moves
  · exact Moves.refl s

/-- The stream when the loop over the filters is over. -/
def Ran.stream : Ran → DownStream
  | .stopped s => s
  | .passed s => s
  | .resumed _ _ s => s

theorem receiveDataFilters_moves (ask : Ask) (behind : Nat) :
    ∀ (index : Nat) (s : DownStream), Moves s (receiveDataFilters ask behind index s).stream := by
  induction behind with
  | zero => exact fun _ s => Moves.refl s
  | succ behind ih =>
    intro index s
    have hcalled := s.called_moves index ((ask s).onDecodeData index)
    unfold receiveDataFilters
    dsimp only
    split
    · split
      · exact hcalled.trans (.of_life rfl)
      · exact hcalled.trans (ih _ _)
    · exact hcalled.trans (modifyFilter_same _ index fun _ => by rfl).moves
    · have hbuf : ∀ t : DownStream, Same t { t with downstreamReqDataBuf := true } :=
        fun t => .of_life rfl
      exact hcalled.trans ((modifyFilter_same _ index fun _ => by rfl).trans (hbuf _)).moves

theorem receiveTrailersFilters_moves (ask : Ask) (behind : Nat) : ∀ (index : Nat) (s : DownStream),
      Moves s (receiveTrailersFilters ask behind index s).stream := by
  induction behind with
  | zero => exact fun _ s => Moves.refl s
  | succ behind ih =>
    intro index s
    have hcalled := s.called_moves index ((ask s).onDecodeTrailers index)
    unfold receiveTrailersFilters
    dsimp only
    split
    · split
      · exact hcalled
      · exact hcalled.trans (ih _ _)
    · exact hcalled

/-- **`doReceiveHeaders`**: a filter stops the headers, the client is told that
there is no way for them, or there is an upstream request. -/
theorem doReceiveHeaders_cases (s : DownStream) (ask : Ask) (index : Nat) (endStream : Bool) :
    ∃ stopped t, s.runReceiveHeadersFilters ask index = (stopped, t)
      ∧ ((stopped = true ∧ s.doReceiveHeaders ask index endStream = t)
        ∨ stopped = false ∧ ((∃ code, s.doReceiveHeaders ask index endStream = t.hijackRequest code)
          ∨ ∃ u, Upkeep t u ∧ Upkeep (u.newUpstreamRequest ask endStream)
            (s.doReceiveHeaders ask index endStream))) := by
  unfold doReceiveHeaders
  obtain ⟨⟨stopped, t⟩, hran⟩ : ∃ ran, s.runReceiveHeadersFilters ask index = ran := ⟨_, rfl⟩
  rw [hran]
  refine ⟨stopped, t, rfl, ?_⟩
  cases stopped with
  | true => exact Or.inl ⟨rfl, rfl⟩
  | false =>
    refine Or.inr ⟨rfl, ?_⟩
    simp only [Bool.false_eq_true, ↓reduceIte]
    split
    · exact Or.inl ⟨_, rfl⟩
    next route _ =>
      rcases t.initializeUpstreamConnectionPool_cases ask with hpool | ⟨code, hpool⟩
      · rw [hpool]
        refine Or.inr ⟨{ t with
          timeout := route.timeout, retryState := some (RetryState.new route) }, rfl, ?_⟩
        simp only [Bool.not_true, Bool.false_eq_true, ↓reduceIte]
        split
        · exact onUpstreamRequestSent_upkeep _
        · exact Upkeep.refl _
      · rw [hpool]
        exact Or.inl ⟨code, rfl⟩

theorem doReceiveHeaders_moves (s : DownStream) (ask : Ask) (index : Nat) (endStream : Bool) :
    Moves s (s.doReceiveHeaders ask index endStream) := by
  have hfilters := s.runReceiveHeadersFilters_moves ask index
  obtain ⟨stopped, t, hran, hcases⟩ := s.doReceiveHeaders_cases ask index endStream
  rw [hran] at hfilters
  rcases hcases with ⟨-, heq⟩ | ⟨-, ⟨code, heq⟩ | ⟨u, hset, hsent⟩⟩
  · rw [heq]
    exact hfilters
  · rw [heq]
    exact hfilters.trans (t.hijackRequest_moves code)
  · exact ((hfilters.trans hset.moves).trans (u.newUpstreamRequest_moves ask endStream)).trans
      hsent.moves

theorem cleanIfDone_moves (s : DownStream) :
    Moves s (if s.upstreamProcessDone then s.cleanStream else s) := by
  split
  · exact s.cleanStream_moves
  · exact Moves.refl s

theorem continueHeaders_moves (s : DownStream) (ask : Ask) (index : Nat) :
    Moves s (s.continueHeaders ask index) := by
  unfold continueHeaders
  split
  · exact Moves.refl s
  · exact (modifyFilter_same _ index fun _ => by rfl).moves.trans (doReceiveHeaders_moves _ _ _ _)

/-- A relation that the parts of a call through the filters keep to.  The loops
over the filters and the headers of `doContinue` are only run when the response
is not finished. -/
structure Passes (ask : Ask) (R : DownStream → DownStream → Prop) : Prop where
  trans : ∀ {s t u}, R s t → R t u → R s u
  upkeep : ∀ {s t}, Upkeep s t → R s t
  data : ∀ behind index {s}, s.upstreamProcessDone = false →
    R s (receiveDataFilters ask behind index s).stream
  trailers : ∀ behind index {s}, s.upstreamProcessDone = false →
    R s (receiveTrailersFilters ask behind index s).stream
  headers : ∀ index {s}, s.upstreamProcessDone = false →
    R s ((s.modifyFilter index fun f => { f with stopped := false }).continueHeaders ask index)
  clean : ∀ s, R s (if s.upstreamProcessDone then s.cleanStream else s)

namespace Passes

variable {R : DownStream → DownStream → Prop} {ask : Ask} (hR : Passes ask R) {s s' : DownStream}
include hR

theorem refl (s : DownStream) : R s s := hR.upkeep (.refl s)

theorem after {t : DownStream} (h : R t s') (hupkeep : Upkeep s t) : R s s' :=
  hR.trans (hR.upkeep hupkeep) h

theorem forwardData {endStream : Bool} (h : s.forwardData endStream = .ok s') : R s s' := by
  obtain ⟨t, happend, h⟩ := bind_eq_ok.mp h
  cases h
  have hsent : Upkeep s (if endStream then s.onUpstreamRequestSent else s) := by
    split
    · exact s.onUpstreamRequestSent_upkeep
    · exact Upkeep.refl s
  exact hR.after (hR.clean t) (hsent.trans (upstreamAppendData_upkeep happend))

theorem forwardTrailers (h : s.forwardTrailers = .ok s') : R s s' := by
  obtain ⟨t, happend, h⟩ := bind_eq_ok.mp h
  cases h
  have hset : Upkeep s { s with downstreamReqTrailers := true } := rfl
  exact hR.after (hR.clean t) ((hset.trans (onUpstreamRequestSent_upkeep _)).trans
    (upstreamAppendTrailers_upkeep happend))

section Chain

variable {continueAt : (behind index : Nat) → DownStream → Except Panic DownStream}
  (hcontinue : ∀ behind index s s', continueAt behind index s = .ok s' → R s s')
include hcontinue

variable {behind index : Nat} {hasTrailer : Bool}

theorem andThen {ran : Ran} {forward : DownStream → Except Panic DownStream}
    (hran : R s ran.stream) (hforward : ∀ t t', forward t = .ok t' → R t t')
    (h : ran.andThen continueAt forward = .ok s') : R s s' := by
  cases ran with
  | stopped t =>
    cases h
    exact hran
  | passed t => exact hR.trans hran (hforward t s' h)
  | resumed index behind t =>
    obtain ⟨u, hu, h⟩ := bind_eq_ok.mp h
    exact hR.trans (hR.trans hran (hcontinue behind index t u hu)) (hforward u s' h)

theorem doReceiveData {endStream : Bool}
    (h : s.doReceiveData continueAt ask behind index endStream = .ok s') : R s s' := by
  refine hR.andThen hcontinue ?_ (fun t t' => hR.forwardData) h
  split
  · exact hR.refl s
  next hdone => exact hR.data behind index (Bool.not_eq_true _ ▸ hdone)

theorem doReceiveTrailers (h : s.doReceiveTrailers continueAt ask behind index = .ok s') :
    R s s' := by
  refine hR.andThen hcontinue ?_ (fun t t' => hR.forwardTrailers) h
  split
  · exact hR.refl s
  next hdone => exact hR.trailers behind index (Bool.not_eq_true _ ▸ hdone)

theorem continueData {hasBuffedData : Bool}
    (h : s.continueData continueAt ask behind index hasBuffedData hasTrailer = .ok s') :
    R s s' := by
  unfold DownStream.continueData at h
  split at h
  · exact hR.after (hR.doReceiveData hcontinue h) rfl
  · cases h
    exact hR.refl s

theorem continueTrailers
    (h : s.continueTrailers continueAt ask behind index hasTrailer = .ok s') : R s s' := by
  unfold DownStream.continueTrailers at h
  split at h
  · exact hR.doReceiveTrailers hcontinue h
  · cases h
    exact hR.refl s

end Chain

/-- **`ContinueDecoding` keeps to it.** -/
theorem doContinue {behind index : Nat} (h : doContinue ask behind index s = .ok s') : R s s' := by
  -- a filter further behind has fewer behind it
  induction behind using Nat.strong_induction_on generalizing index s s' with
  | _ behind ih =>
    have hcontinue : ∀ behind' index' t t',
        (if _h : behind' < behind then DownStream.doContinue ask behind' index' t else .ok t)
          = .ok t' → R t t' := by
      grind [hR.refl]
    rw [DownStream.doContinue] at h
    split at h
    · cases h
      exact hR.refl s
    next hdone =>
      -- the headers may finish the response; data and trailers look again
      obtain ⟨t, hdata, htrailers⟩ := bind_eq_ok.mp h
      exact hR.trans (hR.trans (hR.headers index (Bool.not_eq_true _ ▸ hdone))
        (hR.continueData hcontinue hdata)) (hR.continueTrailers hcontinue htrailers)

theorem receiveData {endStream : Bool} (h : s.receiveData ask endStream = .ok s') : R s s' := by
  unfold DownStream.receiveData at h
  split at h
  · cases h
    exact hR.refl s
  · exact hR.after (hR.doReceiveData (fun _ _ _ _ => hR.doContinue) h) rfl

theorem receiveTrailers (h : s.receiveTrailers ask = .ok s') : R s s' := by
  unfold DownStream.receiveTrailers at h
  split at h
  · cases h
    exact hR.refl s
  · exact hR.after (hR.doReceiveTrailers (fun _ _ _ _ => hR.doContinue) h) rfl

end Passes

variable {ask : Ask} {s s' : DownStream}

theorem moves_passes (ask : Ask) : Passes ask Moves where
  trans := Moves.trans
  upkeep := Upkeep.moves
  data := fun behind index s _ => receiveDataFilters_moves ask behind index s
  trailers := fun behind index s _ => receiveTrailersFilters_moves ask behind index s
  headers := fun index s _ =>
    (modifyFilter_same s index fun _ => by rfl).moves.trans (continueHeaders_moves _ ask index)
  clean := cleanIfDone_moves

theorem receiveHeaders_moves (s : DownStream) (ask : Ask) (endStream : Bool) :
    Moves s (s.receiveHeaders ask endStream) :=
  .set (doReceiveHeaders_moves _ ask 0 endStream) rfl

/-- **Every method of the stream is such a call.** -/
theorem handle_moves {direction : Direction} {body : EventBody}
    (h : s.handle ask direction body = .ok s') : Moves s s' := by
  unfold handle at h
  split at h
  · cases h
    exact s.resetStream_moves
  · cases h
    exact s.receiveHeaders_moves ask _
  · exact (moves_passes ask).receiveData h
  · exact (moves_passes ask).receiveTrailers h
  · split at h
    next =>
      exact (onUpstreamReset_moves h).set rfl
    next => cases h
  · split at h
    · exact onUpstreamHeaders_moves h
    · cases h
  · split at h
    · cases h
      exact s.onUpstreamData_moves _
    · cases h
  · split at h
    · cases h
      exact s.onUpstreamTrailers_moves
    · cases h
  · cases h
    exact Moves.refl s

/-! ## §5. Whole runs. -/

/-- No entry of the dispatcher is the stream's own. -/
@[local grind]
def Forgotten (s : DownStream) : Prop := ∀ entry, s.entry = some entry → entry.own = false

/-- What holds after every run. -/
@[local grind cases]
structure Tracked (s : DownStream) : Prop where
  startFirst : ∀ e ∈ s.ctrlChan.tail, e.body ≠ .start
  jobs : ∀ e ∈ s.jobChan, e.type = .normal
  /-- The dispatcher forgets a cleaned stream. -/
  forgotten : s.downstreamCleaned = true →
    s.StopPending ∨ (∀ e ∈ s.ctrlChan, e.body ≠ .start) ∧ s.Forgotten
  accounted : s.Accounted

theorem Accounted.dispatched (h : s.Accounted)
    (ctrlChan jobChan : List (Event Unit)) (polled : Bool) (entry : Option Entry) :
    Accounted { s with
      ctrlChan := ctrlChan, jobChan := jobChan, polled := polled, entry := entry } :=
  ⟨h.active, h.listed, h.destroyed, h.reset⟩

theorem newStream_tracked (streamID : GoString) (filters : Nat) :
    (newStream streamID filters).Tracked where
  startFirst := fun _ he => absurd he List.not_mem_nil
  jobs := fun _ he => absurd he List.not_mem_nil
  forgotten := fun h => absurd h Bool.false_ne_true
  accounted :=
    ⟨rfl, rfl, fun h => absurd h Bool.false_ne_true, fun h => absurd h Bool.false_ne_true⟩

section Preserved

variable {s s' : DownStream}

theorem Tracked.moves (h : s.Tracked) (hm : Moves s s') : s'.Tracked := by
  obtain ⟨added, heq, hadded⟩ := hm.queued
  refine ⟨?_, fun e he => (hm.jobs e he).elim (h.jobs e) id, ?_, hm.accounted h.accounted⟩
  · grind [List.mem_of_mem_tail]
  · grind

theorem Tracked.markDone (h : s.Tracked) : s.markDone.Tracked := by
  refine ⟨h.startFirst, h.jobs, fun hc => ?_, h.accounted.dispatched _ _ _ _⟩
  grind [Option.map_eq_some_iff]

theorem Tracked.other (h : s.Tracked) (o : Other) :
    Tracked { s with entry := o.change s.entry } := by
  refine ⟨h.startFirst, h.jobs, fun hc => ?_, h.accounted.dispatched _ _ _ _⟩
  rcases h.forgotten hc with hp | ⟨hstart, hforgotten⟩
  · exact Or.inl hp
  · refine Or.inr ⟨hstart, fun entry hentry => ?_⟩
    cases o with
    | start =>
      cases hentry
      rfl
    | stop => cases hentry
    | done =>
      obtain ⟨entry₀, hentry₀, rfl⟩ := Option.map_eq_some_iff.mp hentry
      exact hforgotten entry₀ hentry₀

variable {ask : Ask} {e : Event Unit} {rest : List (Event Unit)} {a : Action}

theorem eventProcess_cases (h : s.eventProcess ask e = .ok s') :
    (e.body = .start ∧ s' = { s with entry := some ⟨false, true⟩ })
      ∨ (e.body = .stop ∧ s' = { s with entry := none })
      ∨ (e.body ≠ .start ∧ e.body ≠ .stop
        ∧ ((s.isOpen = false ∧ s' = s)
          ∨ (s.isOpen = true
            ∧ ∃ t, s.handle ask e.direction e.body = .ok t ∧ s' = t.markDone))) := by
  unfold eventProcess at h
  split at h
  next hbody =>
    cases h
    exact Or.inl ⟨hbody, rfl⟩
  next hbody =>
    cases h
    exact Or.inr (Or.inl ⟨hbody, rfl⟩)
  next hstart hstop =>
    refine Or.inr (Or.inr ⟨hstart, hstop, ?_⟩)
    split at h
    next hopen =>
      obtain ⟨t, hhandle, rfl⟩ := map_eq_ok.mp h
      exact Or.inr ⟨hopen, t, hhandle, rfl⟩
    grind

theorem Tracked.start_taken (h : s.Tracked)
    (hctrl : s.ctrlChan = e :: rest) : ∀ e' ∈ rest, e'.body ≠ .start := by
  have hfirst := h.startFirst
  rwa [hctrl] at hfirst

theorem Tracked.taken (h : s.Tracked) (hctrl : s.ctrlChan = e :: rest) (hstop : e.body ≠ .stop) :
    Tracked { s with ctrlChan := rest, polled := false } := by
  have hrest := h.start_taken hctrl
  refine ⟨fun e he => hrest e (List.mem_of_mem_tail he), h.jobs, fun hc => ?_,
    h.accounted.dispatched _ _ _ _⟩
  grind

theorem body_of_normal (h : e.type = .normal) : e.body ≠ .start ∧ e.body ≠ .stop := by
  constructor
  all_goals
    intro hbody
    simp only [Event.type, hbody] at h
    cases h

/-- What a step can be. -/
inductive Happens (s s' : DownStream) : Action → Prop where
  | offer {a : Action} (t : DownStream) (direction : Direction) (body : EventBody) :
      Upkeep s t → body ≠ .start → body ≠ .stop → s' = t.offer direction body → Happens s s' a
  | upkeep {a : Action} : Upkeep s s' → Happens s s' a
  | onDecodeError (err : GoError) : s' = s.onDecodeError err → Happens s s' (.onDecodeError err)
  | control (ask : Ask) (e : Event Unit) (rest : List (Event Unit)) : s.ctrlChan = e :: rest →
      ({ s with ctrlChan := rest, polled := false } : DownStream).eventProcess ask e = .ok s' →
      Happens s s' (.control ask)
  | job (ask : Ask) (e : Event Unit) (rest : List (Event Unit)) : s.jobChan = e :: rest →
      ({ s with jobChan := rest, polled := false } : DownStream).eventProcess ask e = .ok s' →
      Happens s s' (.job ask)
  | fire (t : Timer) (ask : Ask) :
      ({ s with timers := s.timers.erase t } : DownStream).timerCallback ask t.callback = .ok s' →
      Happens s s' (.fire t ask)
  | continueDecoding (index : Nat) (ask : Ask) :
      doContinue ask (s.receiverFilters.length - (index + 1)) index
        { s with continuations := s.continuations.erase index } = .ok s' →
      Happens s s' (.continueDecoding index ask)
  | other (o : Other) : s' = { s with entry := o.change s.entry } → Happens s s' (.other o)

theorem Step.happens (h : Step s a s') : Happens s s' a := by
  have hoffer : ∀ direction body, body ≠ .start → body ≠ .stop →
      Happens s (s.offer direction body) a :=
    fun direction body hstart hstop => .offer s direction body (.refl s) hstart hstop rfl
  unfold Step at h
  cases a with
  | onReceiveHeaders | onReceiveTrailers | onResetStream =>
    cases h
    exact hoffer .downstream _ EventBody.noConfusion EventBody.noConfusion
  | onReceiveData data endStream =>
    cases h
    exact .offer { s with downstreamReqDataBuf := true } .downstream _ rfl EventBody.noConfusion
      EventBody.noConfusion rfl
  | onDecodeError err =>
    cases h
    exact .onDecodeError err rfl
  | onDownstreamClose =>
    simp only [step] at h
    split at h
    · cases h
      exact hoffer .downstream _ EventBody.noConfusion EventBody.noConfusion
    · cases h
  | upstreamHeaders | upstreamData | upstreamTrailers | upstreamReset =>
    cases h
    exact hoffer .upstream _ EventBody.noConfusion EventBody.noConfusion
  | poll | expire =>
    simp only [step] at h
    split at h
    · cases h
      exact .upkeep rfl
    · cases h
  | control ask =>
    simp only [step] at h
    split at h
    next e rest hctrl => exact .control ask e rest hctrl (toOption_eq_some h)
    next => cases h
  | job ask =>
    simp only [step] at h
    split at h
    next e rest hjob =>
      split at h
      · exact .job ask e rest hjob (toOption_eq_some h)
      · cases h
    next => cases h
  | fire t ask =>
    simp only [step] at h
    split at h
    · exact .fire t ask (toOption_eq_some h)
    · cases h
  | continueDecoding index ask =>
    simp only [step] at h
    split at h
    · exact .continueDecoding index ask (toOption_eq_some h)
    · cases h
  | other o =>
    cases h
    exact .other o rfl

/-- **The kinds of steps**: a call from outside of the dispatcher, what
another stream does, an event. -/
theorem step_cases (h : Step s a s') : Moves s s'
      ∨ (∃ o, a = .other o ∧ s' = { s with entry := o.change s.entry })
      ∨ (∃ ask e rest, a = .control ask ∧ s.ctrlChan = e :: rest
        ∧ ({ s with ctrlChan := rest, polled := false } : DownStream).eventProcess ask e = .ok s')
      ∨ (∃ ask e rest, a = .job ask ∧ s.jobChan = e :: rest
        ∧ ({ s with jobChan := rest, polled := false } : DownStream).eventProcess ask e
          = .ok s') := by
  cases h.happens with
  | offer t direction body hupkeep hstart hstop heq =>
    rw [heq]
    exact Or.inl (hupkeep.moves.trans (t.offer_moves direction hstart hstop))
  | upkeep hupkeep => exact Or.inl hupkeep.moves
  | onDecodeError err heq =>
    rw [heq]
    exact Or.inl (s.onDecodeError_moves err)
  | control ask e rest hctrl hevent =>
    exact Or.inr (Or.inr (Or.inl ⟨ask, e, rest, rfl, hctrl, hevent⟩))
  | job ask e rest hjob hevent => exact Or.inr (Or.inr (Or.inr ⟨ask, e, rest, rfl, hjob, hevent⟩))
  | fire t ask hok =>
    have herase : Upkeep s { s with timers := s.timers.erase t } := rfl
    exact Or.inl (herase.moves.trans (timerCallback_moves hok))
  | continueDecoding index ask hok =>
    have herase : Upkeep s { s with continuations := s.continuations.erase index } := rfl
    exact Or.inl (herase.moves.trans ((moves_passes ask).doContinue hok))
  | other o heq => exact Or.inr (Or.inl ⟨o, rfl, heq⟩)

theorem Tracked.step (h : s.Tracked) (hstep : Step s a s') : s'.Tracked := by
  rcases step_cases hstep with hm | ⟨o, -, rfl⟩ | ⟨ask, e, rest, -, hctrl, hevent⟩
    | ⟨ask, e, rest, -, hjob, hevent⟩
  · exact h.moves hm
  · exact h.other o
  · rcases eventProcess_cases hevent with ⟨hbody, rfl⟩ | ⟨hbody, rfl⟩ | ⟨hstart, hstop, hcase⟩
    · -- its own entry, but then a stop is behind the start
      have htaken := h.taken hctrl (by rw [hbody]; exact EventBody.noConfusion)
      refine ⟨htaken.startFirst, htaken.jobs, fun hc => ?_, htaken.accounted.dispatched _ _ _ _⟩
      grind
    · have hrest := h.start_taken hctrl
      refine ⟨fun e' he' => hrest e' (List.mem_of_mem_tail he'), h.jobs,
        fun _ => Or.inr ⟨hrest, fun entry hentry => by cases hentry⟩,
        h.accounted.dispatched _ _ _ _⟩
    · have htaken := h.taken hctrl hstop
      rcases hcase with ⟨-, rfl⟩ | ⟨-, t, hhandle, rfl⟩
      · exact htaken
      · exact (htaken.moves (handle_moves hhandle)).markDone
  · have htaken : Tracked { s with jobChan := rest, polled := false } :=
      ⟨h.startFirst, fun e' he' => h.jobs e' (by rw [hjob]; exact List.mem_cons_of_mem _ he'),
        h.forgotten, h.accounted.dispatched _ _ _ _⟩
    obtain ⟨hstart, hstop⟩ := body_of_normal (h.jobs e (by rw [hjob]; exact List.mem_cons_self))
    rcases eventProcess_cases hevent with ⟨hbody, -⟩ | ⟨hbody, -⟩ | ⟨-, -, hcase⟩
    · exact absurd hbody hstart
    · exact absurd hbody hstop
    · rcases hcase with ⟨-, rfl⟩ | ⟨-, t, hhandle, rfl⟩
      · exact htaken
      · exact (htaken.moves (handle_moves hhandle)).markDone

/-- The dispatcher takes a reset of the stream and drops it, and the stream is
not cleaned. -/
def DropsReset (s : DownStream) : Action → Prop
  | .control _ =>
    ∃ e ∈ s.ctrlChan.head?, IsReset e ∧ s.isOpen = false ∧ s.downstreamCleaned = false
  | _ => False

/-- A finished stream is cleaned or its reset is pending. -/
@[local grind]
def Settling (s : DownStream) : Prop :=
  s.upstreamProcessDone = true → s.downstreamCleaned = true ∨ s.ResetPending

theorem Settling.moves (h : s.Settling) (hm : Moves s s') : s'.Settling := by
  intro hdone
  grind

/-- Handling an event is a call; start, stop and dropped events leave the
stream alone. -/
theorem Settling.event (h : s.Settling) (hevent : s.eventProcess ask e = .ok s') : s'.Settling := by
  rcases eventProcess_cases hevent with ⟨-, rfl⟩ | ⟨-, rfl⟩
    | ⟨-, -, ⟨-, rfl⟩ | ⟨-, t, hhandle, rfl⟩⟩
  · exact h
  · exact h
  · exact h
  · have hsettling : t.Settling := h.moves (handle_moves hhandle)
    exact hsettling

/-- **Only a dropped reset leaves a finished stream behind.** -/
theorem Settling.step (h : s.Settling) (htracked : s.Tracked)
    (hdrop : ¬ DropsReset s a) (hstep : Step s a s') : s'.Settling := by
  rcases step_cases hstep with hm | ⟨o, -, rfl⟩ | ⟨ask, e, rest, rfl, hctrl, hevent⟩
    | ⟨ask, e, rest, -, hjob, hevent⟩
  · exact h.moves hm
  · exact h
  · by_cases hreset : IsReset e
    · -- the reset itself: handled, or of a cleaned stream
      obtain ⟨hdirection, reason, hbody⟩ := hreset
      rcases eventProcess_cases hevent with ⟨hstart, -⟩ | ⟨hstop, -⟩
        | ⟨-, -, ⟨hclosed, rfl⟩ | ⟨-, t, hhandle, rfl⟩⟩
      · exact absurd (hbody.symm.trans hstart) EventBody.noConfusion
      · exact absurd (hbody.symm.trans hstop) EventBody.noConfusion
      · intro _
        cases hc : s.downstreamCleaned with
        | true => exact Or.inl rfl
        | false =>
          exact absurd ⟨e, by rw [hctrl]; rfl, ⟨hdirection, reason, hbody⟩, hclosed, hc⟩ hdrop
      · rw [hdirection, hbody] at hhandle
        cases hhandle
        exact fun _ => Or.inl (resetStream_cleaned _ (htracked.accounted.dispatched _ _ _ _))
    · -- another event: a pending reset is behind it
      have htaken : Settling { s with ctrlChan := rest, polled := false } := by grind
      exact htaken.event hevent
  · have htaken : Settling { s with jobChan := rest, polled := false } := h
    exact htaken.event hevent

end Preserved

/-! ## §6. Release. -/

/-- No event, timer or filter continuation of the stream is pending. -/
@[local grind cases]
structure Quiet (s : DownStream) : Prop where
  ctrlChan : s.ctrlChan = []
  jobChan : s.jobChan = []
  timers : s.timers = []
  continuations : s.continuations = []

/-- The stream is cleaned: its share of the gauges is taken back, its filters
are destroyed, neither the proxy's list nor the dispatcher knows it. -/
structure Released (s : DownStream) : Prop where
  cleaned : s.downstreamCleaned = true
  requestActive : s.requestActive = 0
  destroyed : ∀ f ∈ s.receiverFilters, f.destroyed = true
  unlisted : s.listed = false
  forgotten : s.Forgotten

section Runs

variable {streamID : GoString} {filters : Nat} {as : List Action} {s : DownStream}

theorem run_tracked (hrun : Run Step (newStream streamID filters) as s) : s.Tracked :=
  hrun.invariant Tracked (fun _ _ _ h hstep => h.step hstep) (newStream_tracked streamID filters)

/-- **The gauge, the list and the filters** are given back once, when the stream
is cleaned; then its stop is pending, or the dispatcher has forgotten it. -/
theorem accounted_always (streamID : GoString) (filters : Nat) (as : List Action) :
    EveryState Step (fun s => s.Accounted
      ∧ (s.downstreamCleaned = true → s.StopPending ∨ s.Forgotten))
      (newStream streamID filters) as := by
  intro before after s _ hrun
  have h := run_tracked hrun
  exact ⟨h.accounted, fun hc => (h.forgotten hc).imp_right And.right⟩

theorem released_of_cleaned (htracked : s.Tracked) (hquiet : s.Quiet)
    (hc : s.downstreamCleaned = true) : s.Released := by
  have haccounted := htracked.accounted
  refine ⟨hc, ?_, haccounted.destroyed hc, ?_, ?_⟩
  · rw [haccounted.active, hc]
    rfl
  · rw [haccounted.listed, hc]
    rfl
  · grind

/-- **Finished streams are released, if no reset is dropped.**  In every order of
calls, with every answer of routers, pools and filters and with other streams
under the same id: a stream that is finished and has nothing pending is
released. -/
theorem finished_released (hkept : EveryStep Step (fun t a => ¬ DropsReset t a)
      (newStream streamID filters) as) :
    EveryState Step (fun s => s.upstreamProcessDone = true → s.Quiet → s.Released)
      (newStream streamID filters) as := by
  have hsettling : EveryState Step (fun s => s.Tracked ∧ s.Settling)
      (newStream streamID filters) as := by
    refine hkept.everyState _ (fun t a u h hdrop hstep => ?_)
      ⟨newStream_tracked streamID filters, fun hdone => absurd hdone Bool.false_ne_true⟩
    exact ⟨h.1.step hstep, h.2.step h.1 hdrop hstep⟩
  intro before after s has hrun hdone hquiet
  obtain ⟨htracked, hsettled⟩ := hsettling before after s has hrun
  refine released_of_cleaned htracked hquiet ((hsettled hdone).resolve_right ?_)
  rintro ⟨e, he, -⟩
  rw [hquiet.ctrlChan] at he
  exact absurd he List.not_mem_nil

end Runs

instance (e : Event Unit) : Decidable (IsReset e) :=
  match h : e.body with
  | .reset reason => decidable_of_iff (e.direction = .downstream)
      ⟨fun hdirection => ⟨hdirection, reason, h⟩, And.left⟩
  | .start | .stop | .receiveHeaders .. | .receiveData .. | .receiveTrailer _ =>
    isFalse fun hreset => by simp [IsReset, h] at hreset

instance (s : DownStream) : (a : Action) → Decidable (DropsReset s a)
  | .control _ => inferInstanceAs (Decidable (∃ e ∈ s.ctrlChan.head?,
      IsReset e ∧ s.isOpen = false ∧ s.downstreamCleaned = false))
  | .onReceiveHeaders .. | .onReceiveData .. | .onReceiveTrailers _ | .onDecodeError _
  | .onResetStream _ | .onDownstreamClose | .upstreamHeaders .. | .upstreamData ..
  | .upstreamTrailers _ | .upstreamReset _ | .poll | .job _ | .fire .. | .expire _
  | .continueDecoding .. | .other _ => isFalse id

/-- A request without a body is answered by an upstream. -/
def answeredRequest : List Action :=
  [.onReceiveHeaders ∅ true, .control fun _ => {}, .poll,
    .job fun _ => { route := some ⟨⟨0, 0⟩, false, 0⟩ }, .upstreamHeaders ∅ true, .poll,
    .job fun _ => {}, .control fun _ => {}]

theorem answered_request_released :
    ∃ s, Run Step (newStream (str "7") 1) answeredRequest s ∧ s.upstreamProcessDone = true
      ∧ s.Quiet ∧ s.Released := by
  obtain ⟨s, hrun, hdone, hquiet⟩ : ∃ s, Run Step (newStream (str "7") 1) answeredRequest s
      ∧ s.upstreamProcessDone = true ∧ s.Quiet :=
    ⟨_, run_of_runSteps (f := step) rfl, rfl, ⟨rfl, rfl, rfl, rfl⟩⟩
  have hkept : checkSteps step (fun t a => !decide (DropsReset t a)) (newStream (str "7") 1)
      answeredRequest = true := rfl
  exact ⟨s, hrun, hdone, hquiet, finished_released
    (everyStep_of_checkSteps (fun _ _ h => of_decide_eq_false (Bool.not_eq_true' _ ▸ h)) hkept)
    _ [] s (List.append_nil _).symm hrun hdone hquiet⟩

/-- A request with a body to follow has no route.  Its reset is dropped, and so
are the body and the close of the connection that come afterwards. -/
def unroutedRequest : List Action :=
  [.onReceiveHeaders ∅ false, .control fun _ => {}, .poll, .job fun _ => {}, .control fun _ => {},
    .onReceiveData [1] true, .poll, .job fun _ => {}, .onDownstreamClose, .control fun _ => {}]

/-- **A finished stream is leaked.** -/
theorem unrouted_request_leaks :
    ∃ s, Run Step (newStream (str "7") 0) unroutedRequest s ∧ s.upstreamProcessDone = true
      ∧ s.Quiet ∧ ¬ s.Released := by
  refine ⟨_, run_of_runSteps (f := step) rfl, rfl, ⟨rfl, rfl, rfl, rfl⟩, fun h => ?_⟩
  have hcleaned := h.cleaned
  exact absurd hcleaned Bool.false_ne_true

end DownStream

end Mosn.Proxy.Lifecycle
