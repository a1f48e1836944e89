/-
  Mosn.Proxy.RetrySlots
  **THE SLOTS OF A CLUSTER'S RETRIES, OVER EVERY RUN** of the streams of
  `Mosn.Proxy.Retries`.

  Every method of a stream keeps its accounts: the counter of the cluster
  follows the slot of the stream, and what the stream has taken and not given
  back is the slot that it holds.  A method gives the slot back (`Frees`) or,
  when a response passes the retry check, takes one (`Schedules`).

    • `Streams.retries_conserved` — the counter is the number of retries that
      are scheduled and not released, and a stream that is cleaned holds none.
-/
import Mosn.Lib.Transition
import Mosn.Proxy.Retries
import Mathlib.Algebra.Order.BigOperators.Group.List
import Mathlib.Algebra.Order.Group.Nat

namespace Mosn.Proxy.Lifecycle

open Mosn.Lib Mosn.Types
open Mosn.Stream.Codec (Resource)

/-! ## §1. What the methods leave alone. -/

namespace DownStream

/-- The fields of a stream that its slot depends on, and whether it was
cleaned. -/
def retrySide (s : DownStream) := (s.retryState, s.downstreamCleaned)

variable {s s' : DownStream}

theorem slot_of_side (h : s'.retrySide = s.retrySide) : s'.slot = s.slot := by
  simp only [retrySide, Prod.mk.injEq] at h
  simp only [slot, h.1]

theorem cleaned_of_side (h : s'.retrySide = s.retrySide) :
    s'.downstreamCleaned = s.downstreamCleaned := by
  simp only [retrySide, Prod.mk.injEq] at h
  exact h.2

@[simp] theorem side_startTimer (s : DownStream) (callback : TimerCallback) :
    (s.startTimer callback).retrySide = s.retrySide := rfl

@[simp] theorem side_stopTimer (s : DownStream) (t : Option Nat) :
    (s.stopTimer t).retrySide = s.retrySide := by
  cases t <;> rfl

@[simp] theorem side_offer (s : DownStream) (direction : Direction) (body : EventBody) :
    (s.offer direction body).retrySide = s.retrySide := by
  simp only [offer]
  split <;> rfl

@[simp] theorem side_upstreamResetStream (s : DownStream) :
    s.upstreamResetStream.retrySide = s.retrySide := by
  simp only [upstreamResetStream]
  split
  · split <;> rfl
  · rfl

@[simp] theorem side_setupPerReqTimeout (s : DownStream) :
    s.setupPerReqTimeout.retrySide = s.retrySide := by
  simp only [setupPerReqTimeout]
  split
  · show ((s.stopTimer s.perRetryTimer).startTimer .onPerReqTimeout).retrySide = s.retrySide
    rw [side_startTimer, side_stopTimer]
  · rfl

theorem side_setupRetry {endStream again : Bool} (hok : s.setupRetry endStream = .ok (again, s')) :
    again = s.upstreamRequestSent ∧ s'.retrySide = s.retrySide := by
  simp only [setupRetry] at hok
  split at hok
  next hsent =>
    cases hok
    exact ⟨by simpa using hsent, rfl⟩
  next hsent =>
    split at hok
    next r hr =>
      cases hok
      refine ⟨by simpa using hsent, ?_⟩
      show (stopTimer _ _).retrySide = s.retrySide
      rw [side_stopTimer]
      show (if !endStream then s.upstreamResetStream else s).retrySide = s.retrySide
      split
      · exact side_upstreamResetStream s
      · rfl
    next => cases hok

theorem side_newUpstreamRequest (s : DownStream) (ask : Ask) (endStream : Bool) :
    (s.newUpstreamRequest ask endStream).retrySide = s.retrySide := by
  simp only [newUpstreamRequest]
  split
  · rfl
  · rw [upstreamOnResetStream, side_offer]
    rfl

theorem side_resendData (hok : s.resendData = .ok s') : s'.retrySide = s.retrySide := by
  simp only [resendData, upstreamAppendData] at hok
  split at hok
  · split at hok
    · split at hok <;> cases hok
      rfl
    · cases hok
  · cases hok
    rfl

theorem side_resendTrailers (hok : s.resendTrailers = .ok s') : s'.retrySide = s.retrySide := by
  simp only [resendTrailers, upstreamAppendTrailers] at hok
  split at hok
  · split at hok
    · split at hok <;> cases hok
      rfl
    · cases hok
  · cases hok
    rfl

theorem slot_reset (s : DownStream) (h : ∃ r, s.retryState = Option.map RetryState.reset r) :
    s.slot = 0 := by
  obtain ⟨r, hr⟩ := h
  cases r with
  | none => simp [slot, hr]
  | some r => simp [slot, hr, RetryState.reset]

theorem side_cleanUp (s : DownStream) :
    s.cleanUp.retrySide = (s.retryState.map RetryState.reset, s.downstreamCleaned) := by
  show (stopTimer _ _).retrySide = _
  rw [side_stopTimer]
  show (stopTimer _ _).retrySide = _
  rw [side_stopTimer]
  rfl

theorem side_cleanStream (s : DownStream) (hopen : s.downstreamCleaned = false) :
    s.cleanStream.retrySide = (s.retryState.map RetryState.reset, true) := by
  simp only [cleanStream, hopen, Bool.false_eq_true, if_false]
  show (offer _ _ _).retrySide = _
  rw [side_offer]
  show (cleanUp _).retrySide = _
  rw [side_cleanUp]
  have hside := side_upstreamResetStream { s with downstreamCleaned := true }
  simp only [retrySide, Prod.mk.injEq] at hside
  rw [hside.1, hside.2]

end DownStream

/-! ## §2. The accounts of a stream. -/

namespace Held

/-- The counter counts the stream's slot and `n` others, and what the stream
has taken and not given back is its slot. -/
structure Accounts (n : Nat) (h : Held) : Prop where
  current : h.retries.current = Int64.ofNat (n + h.stream.slot)
  balance : h.scheduled = h.released + h.stream.slot

/-- A method that schedules no retry. -/
structure Frees (h h' : Held) : Prop where
  accounts : ∀ n, Accounts n h → Accounts n h'
  slot : h'.stream.slot ≤ h.stream.slot
  cleaned : h'.stream.downstreamCleaned = h.stream.downstreamCleaned ∨ h'.stream.slot = 0
  scheduled : h'.scheduled = h.scheduled
  max : h'.retries.max = h.retries.max

/-- A method that schedules one; it is taken back at once when the request has
not been sent to its end. -/
structure Schedules (h h' : Held) : Prop where
  accounts : ∀ n, Accounts n h → Accounts n h'
  slot : h'.stream.slot = if h.stream.upstreamRequestSent then 1 else 0
  cleaned : h'.stream.downstreamCleaned = h.stream.downstreamCleaned ∨ h'.stream.slot = 0
  scheduled : h'.scheduled = h.scheduled + 1
  max : h'.retries.max = h.retries.max

theorem Frees.refl (h : Held) : Frees h h := ⟨fun _ ha => ha, le_refl _, .inl rfl, rfl, rfl⟩

variable {h h' : Held} {f : DownStream → DownStream}

theorem Frees.trans {h'' : Held} (hf : Frees h h') (hf' : Frees h' h'') : Frees h h'' where
  accounts := fun n ha => hf'.accounts n (hf.accounts n ha)
  slot := hf'.slot.trans hf.slot
  cleaned := by
    rcases hf'.cleaned with hsame' | hzero'
    · rcases hf.cleaned with hsame | hzero
      · exact .inl (hsame'.trans hsame)
      · -- the slot was given back before
        have hle := hf'.slot
        exact .inr (by omega)
    · exact .inr hzero'
  scheduled := hf'.scheduled.trans hf.scheduled
  max := hf'.max.trans hf.max

theorem frees_on (h : Held)
    (hside : (f h.stream).retrySide = h.stream.retrySide) : Frees h (h.on f) := by
  have hslot : (h.on f).stream.slot = h.stream.slot := DownStream.slot_of_side hside
  refine ⟨fun n ha => ⟨?_, ?_⟩, le_of_eq hslot, .inl (DownStream.cleaned_of_side hside), rfl, rfl⟩
  · rw [hslot]
    exact ha.current
  · rw [hslot]
    exact ha.balance

theorem frees_on_empty (h : Held) (hslot : h.stream.slot = 0)
    (hslot' : (f h.stream).slot = 0) : Frees h (h.on f) := by
  refine ⟨fun n ha => ⟨?_, ?_⟩, Nat.le_of_eq (hslot'.trans hslot.symm), .inr hslot', rfl, rfl⟩
  · rw [stream_on, hslot', ← hslot]
    exact ha.current
  · rw [stream_on, hslot', ← hslot]
    exact ha.balance

theorem resetRetry_slot (h : Held) : h.resetRetry.stream.slot = 0 := by
  rw [stream_resetRetry]
  exact DownStream.slot_reset _ ⟨_, rfl⟩

theorem resetRetry_cleaned (h : Held) :
    h.resetRetry.stream.downstreamCleaned = h.stream.downstreamCleaned := by
  rw [stream_resetRetry]

theorem resetRetry_empty (h : Held) (hslot : h.stream.slot = 0) : h.resetRetry = h := by
  simp only [resetRetry]
  grind [DownStream.slot, Bool.false_eq_true]

theorem ofNat_succ_sub_one (n : Nat) : Int64.ofNat (n + 1) - 1 = Int64.ofNat n := by
  rw [Int64.ofNat_add]
  exact Int64.add_sub_cancel _ _

theorem resetRetry_frees (h : Held) : Frees h h.resetRetry := by
  have hempty := resetRetry_slot h
  rcases Nat.eq_zero_or_pos h.stream.slot with hzero | hpos
  · rw [resetRetry_empty h hzero]
    exact .refl h
  · have hslot : h.stream.slot = 1 := by
      simp only [DownStream.slot] at hpos ⊢
      split at hpos <;> simp_all
    have hsplit : h.resetRetry.retries = h.retries.decrease
        ∧ h.resetRetry.released = h.released + 1 ∧ h.resetRetry.scheduled = h.scheduled := by
      simp only [DownStream.slot] at hslot
      simp only [resetRetry]
      grind
    obtain ⟨hretries, hreleased, hscheduled⟩ := hsplit
    refine ⟨fun n ha => ⟨?_, ?_⟩, by omega, .inr hempty, hscheduled, by rw [hretries]; rfl⟩
    · rw [hretries, hempty]
      show h.retries.current - 1 = _
      rw [ha.current, hslot]
      exact ofNat_succ_sub_one n
    · have hbalance := ha.balance
      rw [hscheduled, hreleased, hempty]
      omega

theorem cleanUp_frees (h : Held) : Frees h h.cleanUp := by
  refine (resetRetry_frees h).trans (frees_on_empty _ (resetRetry_slot h) ?_)
  have hside := DownStream.side_cleanUp h.resetRetry.stream
  simp only [DownStream.retrySide, Prod.mk.injEq] at hside
  exact DownStream.slot_reset _ ⟨_, hside.1⟩

theorem cleanStream_frees (h : Held) : Frees h h.cleanStream := by
  simp only [cleanStream]
  split
  next => exact .refl h
  next hopen =>
    refine (resetRetry_frees h).trans (frees_on_empty _ (resetRetry_slot h) ?_)
    have hopen' : h.resetRetry.stream.downstreamCleaned = false := by
      rw [resetRetry_cleaned]
      exact Bool.eq_false_iff.mpr hopen
    grind [DownStream.side_cleanStream, DownStream.retrySide, Prod.mk.injEq, DownStream.slot_reset]

theorem endStream_frees (h : Held) : Frees h h.endStream := by
  simp only [endStream]
  split
  next hrest =>
    refine frees_on h ?_
    simp only [DownStream.endStream, hrest, if_true, DownStream.onResetStream,
      DownStream.side_offer]
    rfl
  next => exact cleanStream_frees h

theorem resetStream_frees (h : Held) : Frees h h.resetStream := by
  simp only [resetStream]
  split
  · exact .refl h
  · exact (frees_on h rfl).trans (cleanStream_frees _)

theorem sending_frees (h : Held) (endStream : Bool)
    (hside : (f h.stream).retrySide = h.stream.retrySide) :
    Frees h (if endStream then (h.on f).endStream else h.on f) := by
  split
  · exact (frees_on h hside).trans (endStream_frees _)
  · exact frees_on h hside

theorem appendHeaders_frees (h : Held) (code : Option Int) (endStream : Bool) :
    Frees h (h.appendHeaders code endStream) := sending_frees h endStream rfl

theorem appendData_frees (h : Held) (endStream : Bool) : Frees h (h.appendData endStream) :=
  sending_frees h endStream rfl

theorem appendTrailers_frees (h : Held) : Frees h h.appendTrailers := sending_frees h true rfl

theorem hijackRequest_frees (h : Held) (code : Int) : Frees h (h.hijackRequest code) :=
  (frees_on h rfl).trans (appendHeaders_frees _ _ _)

theorem giveUp_frees (h : Held) (urtype : DownStream.UpstreamResetType) :
    Frees h (h.giveUp urtype) := by
  refine (cleanUp_frees h).trans ?_
  simp only [giveUp]
  split
  · exact endStream_frees _
  · exact hijackRequest_frees _ _

theorem onUpstreamResponseRecvFinished_frees (h : Held) :
    Frees h h.onUpstreamResponseRecvFinished := by
  simp only [onUpstreamResponseRecvFinished]
  split
  · exact (frees_on h (DownStream.side_upstreamResetStream _)).trans (cleanUp_frees _)
  · exact cleanUp_frees h

theorem forwardHeaders_frees (h : Held) (endStream : Bool) :
    Frees h (h.forwardHeaders endStream) := by
  refine (frees_on h (f := fun s => { s with downstreamResponseStarted := true }) rfl).trans ?_
  simp only [forwardHeaders]
  split
  · exact (onUpstreamResponseRecvFinished_frees _).trans (appendHeaders_frees _ _ _)
  · exact appendHeaders_frees _ _ _

theorem onUpstreamData_frees (h : Held) (endStream : Bool) :
    Frees h (h.onUpstreamData endStream) := by
  simp only [onUpstreamData]
  split
  · exact (onUpstreamResponseRecvFinished_frees _).trans (appendData_frees _ _)
  · exact appendData_frees _ _

theorem onUpstreamTrailers_frees (h : Held) : Frees h h.onUpstreamTrailers :=
  (onUpstreamResponseRecvFinished_frees _).trans (appendTrailers_frees _)

theorem doRetry_frees {ask : Ask} (hok : h.doRetry ask = .ok h') : Frees h h' := by
  simp only [doRetry, initializeUpstreamConnectionPool] at hok
  have hfailed (code : Int) :
      Frees h ((h.hijackRequest code).hijackRequest noHealthUpstreamCode).cleanUp :=
    ((hijackRequest_frees _ _).trans (hijackRequest_frees _ _)).trans (cleanUp_frees _)
  by_cases hsnapshot : (ask h.stream).clusterSnapshot = true
  · by_cases hpool : (ask h.stream).connPool = true
    · simp only [hsnapshot, hpool, Bool.not_true, Bool.false_eq_true, if_false] at hok
      obtain ⟨s, hdata, hrest⟩ := bind_eq_ok.mp hok
      obtain ⟨s', htrailers, hend⟩ := bind_eq_ok.mp hrest
      cases hend
      refine frees_on h (f := fun _ => s'.setupPerReqTimeout) ?_
      rw [DownStream.side_setupPerReqTimeout, DownStream.side_resendTrailers htrailers,
        DownStream.side_resendData hdata, DownStream.side_newUpstreamRequest]
    · grind
  · grind

/-! ## §3. A retry. -/

section Retry

variable {stats : ClusterStats} {h h' : Held} {r : RetryState} {headers : HeaderMap}
  {reason : Option StreamResetReason} {endStream again : Bool}

theorem settled_frees (h : Held) (r : RetryState) : Frees h (h.settled r) := by
  refine (resetRetry_frees h).trans (frees_on_empty _ (resetRetry_slot h) ?_)
  exact DownStream.slot_reset _ ⟨some r.tried, rfl⟩

theorem scheduling_slot (h : Held) (r : RetryState) : (h.scheduling r).stream.slot = 1 := rfl

theorem scheduling_accounts (h : Held) (r : RetryState) {n : Nat} (ha : Accounts n h) :
    Accounts n (h.scheduling r) := by
  have hreset := (resetRetry_frees h).accounts n ha
  have hempty := resetRetry_slot h
  refine ⟨?_, ?_⟩
  · show h.resetRetry.retries.current + 1 = _
    rw [hreset.current, hempty, scheduling_slot]
    exact (Int64.ofNat_add n 1).symm
  · show h.resetRetry.scheduled + 1 = h.resetRetry.released + _
    rw [hreset.balance, hempty, scheduling_slot]

theorem setupRetry_keeps (hok : h.setupRetry endStream = .ok (again, h')) :
    again = h.stream.upstreamRequestSent ∧ ∃ s, s.retrySide = h.stream.retrySide
      ∧ h' = h.on fun _ => s := by
  obtain ⟨⟨again', s⟩, hset, hend⟩ := bind_eq_ok.mp hok
  cases hend
  obtain ⟨hagain, hside⟩ := DownStream.side_setupRetry hset
  exact ⟨hagain, s, hside, rfl⟩

theorem retrying_settled (hr : h.stream.retryState = some r)
    (hno : ¬ (r.Passes headers reason ∧ h.resetRetry.retries.canCreate = false))
    (hok : h.retrying stats headers reason endStream = .ok (again, h')) :
    again = false ∧ Frees h h' := by
  obtain ⟨⟨check, g⟩, hretry, hrest⟩ := bind_eq_ok.mp hok
  rw [retry_eq hr] at hretry
  split at hretry
  next hpass =>
    have hroom : h.resetRetry.retries.canCreate = true := by
      by_contra hfull
      exact hno ⟨hpass, Bool.eq_false_iff.mpr hfull⟩
    simp only [hroom, if_true] at hretry
    obtain ⟨_, -, hend⟩ := map_eq_ok.mp hretry
    cases hend
    cases hrest
    exact ⟨rfl, settled_frees h r⟩
  next =>
    cases hretry
    cases hrest
    exact ⟨rfl, settled_frees h r⟩

theorem retrying_scheduled (hr : h.stream.retryState = some r) (hpass : r.Passes headers reason)
    (hfull : h.resetRetry.retries.canCreate = false)
    (hok : h.retrying stats headers reason endStream = .ok (again, h')) :
    again = h.stream.upstreamRequestSent ∧ ∃ s, s.retrySide = (h.scheduling r).stream.retrySide
      ∧ h' = (h.scheduling r).on fun _ => s := by
  obtain ⟨⟨check, g⟩, hretry, hrest⟩ := bind_eq_ok.mp hok
  rw [retry_eq hr, if_pos hpass, hfull, if_neg Bool.false_ne_true] at hretry
  obtain ⟨_, -, hend⟩ := map_eq_ok.mp hretry
  cases hend
  obtain ⟨hagain, hkeeps⟩ := setupRetry_keeps hrest
  refine ⟨hagain.trans ?_, hkeeps⟩
  show h.resetRetry.stream.upstreamRequestSent = _
  rw [stream_resetRetry]

theorem onUpstreamHeaders_frees (hno : ∀ r, h.stream.retryState = some r →
      ¬ (r.Passes headers none ∧ h.resetRetry.retries.canCreate = false))
    (hok : h.onUpstreamHeaders stats headers endStream = .ok h') : Frees h h' := by
  simp only [onUpstreamHeaders] at hok
  split at hok
  next hsome =>
    obtain ⟨r, hr⟩ := Option.isSome_iff_exists.mp hsome
    obtain ⟨⟨again, g⟩, hretrying, hrest⟩ := bind_eq_ok.mp hok
    obtain ⟨rfl, hfrees⟩ := retrying_settled hr (hno r hr) hretrying
    cases hrest
    exact (hfrees.trans (resetRetry_frees g)).trans (forwardHeaders_frees _ _)
  next =>
    cases hok
    exact forwardHeaders_frees h endStream

theorem onUpstreamHeaders_schedules (hr : h.stream.retryState = some r)
    (hpass : r.Passes headers none) (hfull : h.resetRetry.retries.canCreate = false)
    (hok : h.onUpstreamHeaders stats headers endStream = .ok h') : Schedules h h' := by
  simp only [onUpstreamHeaders, hr, Option.isSome_some, if_true] at hok
  obtain ⟨⟨again, g⟩, hretrying, hrest⟩ := bind_eq_ok.mp hok
  obtain ⟨hagain, s, hside, rfl⟩ := retrying_scheduled hr hpass hfull hretrying
  have htaken := frees_on (h.scheduling r) (f := fun _ => s) hside
  have hscheduled : (h.scheduling r).scheduled = h.scheduled + 1 :=
    congrArg (· + 1) (resetRetry_frees h).scheduled
  have hmax : (h.scheduling r).retries.max = h.retries.max := (resetRetry_frees h).max
  have hslot : s.slot = 1 := DownStream.slot_of_side hside
  cases hsent : h.stream.upstreamRequestSent with
  | true =>
    -- the response is dropped, and the retry waits for its timer
    rw [hagain, hsent] at hrest
    cases hrest
    refine ⟨fun n ha => htaken.accounts n (scheduling_accounts h r ha), ?_, .inl ?_,
      htaken.scheduled.trans hscheduled, htaken.max.trans hmax⟩
    · simp only [stream_on, hslot, hsent, if_true]
    · show s.downstreamCleaned = _
      rw [DownStream.cleaned_of_side hside]
      exact resetRetry_cleaned h
  | false =>
    rw [hagain, hsent] at hrest
    cases hrest
    have hback := resetRetry_frees ((h.scheduling r).on fun _ => s)
    have hforward := forwardHeaders_frees ((h.scheduling r).on fun _ => s).resetRetry endStream
    have hempty :
        (((h.scheduling r).on fun _ => s).resetRetry.forwardHeaders endStream).stream.slot
          = 0 := by
      have hle := hforward.slot
      rw [resetRetry_slot] at hle
      omega
    have hall := (htaken.trans hback).trans hforward
    refine ⟨fun n ha => hall.accounts n (scheduling_accounts h r ha), ?_, .inr hempty,
      hall.scheduled.trans hscheduled, hall.max.trans hmax⟩
    rw [hempty, hsent]
    rfl

theorem onUpstreamReset_frees {urtype : DownStream.UpstreamResetType} {reason : StreamResetReason}
    (hok : h.onUpstreamReset stats urtype reason = .ok h') : Frees h h' := by
  simp only [onUpstreamReset] at hok
  split at hok
  next =>
    cases hok
    exact .refl h
  next =>
    have hmark : Frees h (h.on fun s => { s with upstreamReset := true }) := frees_on h rfl
    refine hmark.trans ?_
    split at hok
    next hcond =>
      obtain ⟨r, hr⟩ := Option.isSome_iff_exists.mp hcond.2.2
      obtain ⟨⟨again, g⟩, hretrying, hrest⟩ := bind_eq_ok.mp hok
      obtain ⟨rfl, hfrees⟩ := retrying_settled hr (fun hno => r.not_passes_reset _ hno.1) hretrying
      cases hrest
      exact hfrees.trans (giveUp_frees g urtype)
    next =>
      cases hok
      exact giveUp_frees _ urtype

end Retry

variable {stats : ClusterStats} {h h' : Held} {c : Call}

/-- **One call**: a retry is scheduled only when a response passes the check
and the counter has reached the limit. -/
theorem call_cases (hok : h.call stats c = .ok h') :
    Frees h h' ∨ ∃ headers endStream r, c = .upstreamHeaders headers endStream
      ∧ h.stream.retryState = some r ∧ r.Passes headers none
      ∧ h.resetRetry.retries.canCreate = false ∧ Schedules h h' := by
  cases c with
  | upstreamHeaders headers endStream =>
    simp only [call] at hok
    obtain ⟨-, hheaders⟩ := upstream_ok hok
    grind [onUpstreamHeaders_schedules, onUpstreamHeaders_frees]
  | upstreamData endStream =>
    simp only [call] at hok
    obtain ⟨-, hdata⟩ := upstream_ok hok
    cases hdata
    exact .inl (onUpstreamData_frees h endStream)
  | upstreamTrailers =>
    simp only [call] at hok
    obtain ⟨-, htrailers⟩ := upstream_ok hok
    cases htrailers
    exact .inl (onUpstreamTrailers_frees h)
  | upstreamReset reason =>
    simp only [call] at hok
    obtain ⟨-, hreset⟩ := upstream_ok hok
    exact .inl ((frees_on h rfl).trans (onUpstreamReset_frees hreset))
  | responseTimeout =>
    obtain ⟨-, -, hreset⟩ := bind_eq_ok.mp hok
    refine .inl (Frees.trans (frees_on h ?_) (onUpstreamReset_frees hreset))
    exact DownStream.side_upstreamResetStream _
  | perReqTimeout =>
    simp only [call, onPerReqTimeout] at hok
    split at hok
    next =>
      cases hok
      exact .inl (.refl h)
    next =>
      obtain ⟨-, -, hreset⟩ := bind_eq_ok.mp hok
      split at hreset
      next => cases hreset
      next =>
        refine .inl (Frees.trans (frees_on h ?_) (onUpstreamReset_frees hreset))
        exact DownStream.side_upstreamResetStream _
  | doRetry ask => exact .inl (doRetry_frees hok)
  | resetStream =>
    cases hok
    exact .inl (resetStream_frees h)
  | cleanStream =>
    cases hok
    exact .inl (cleanStream_frees h)

theorem call_accounts
    (hok : h.call stats c = .ok h') {n : Nat} (ha : Accounts n h) : Accounts n h' := by
  rcases call_cases hok with hfrees | ⟨_, _, _, _, _, _, _, hschedules⟩
  · exact hfrees.accounts n ha
  · exact hschedules.accounts n ha

theorem call_cleaned (hok : h.call stats c = .ok h') :
    h'.stream.downstreamCleaned = h.stream.downstreamCleaned ∨ h'.stream.slot = 0 := by
  rcases call_cases hok with hfrees | ⟨_, _, _, _, _, _, _, hschedules⟩
  · exact hfrees.cleaned
  · exact hschedules.cleaned

/-- A stream whose request was sent to its end, with a retry policy that
allows three retries. -/
def awaiting (max : UInt64) : Held where
  stream :=
    { streamID := str "1"
      upstreamRequest := some ⟨true, true, false, false⟩
      retryState := some (RetryState.new ⟨⟨0, 0⟩, true, 3⟩)
      downstreamRecvDone := true
      upstreamRequestSent := true }
  retries := ⟨0, max⟩

/-- A response with that status. -/
def answered (code : GoString) : HeaderMap := (∅ : HeaderMap).insert headerStatus code

end Held

/-! ## §4. The slots of a cluster are conserved. -/

namespace Streams

variable {stats : ClusterStats} {s s' : Streams} {a : Nat × Held.Call}

/-- The counter is what is outstanding, and so are the accounts of every
stream. -/
@[local grind cases]
structure Balanced (s : Streams) : Prop where
  current : s.retries.current = Int64.ofNat s.outstanding
  each : ∀ x ∈ s.streams, x.scheduled = x.released + x.stream.slot

theorem step_call (h : Step stats s a s') :
    ∃ x h', s.streams[a.1]? = some x ∧ (Held.mk x s.retries).call stats a.2 = .ok h'
      ∧ s' = ⟨h'.retries, s.streams.set a.1 h'.toTracked⟩ := by
  obtain ⟨x, hx, hcall⟩ := Option.bind_eq_some_iff.mp h
  obtain ⟨h', hok, hs'⟩ := Option.map_eq_some_iff.mp hcall
  exact ⟨x, h', hx, toOption_eq_some hok, hs'.symm⟩

variable {x : Tracked} {i : Nat}

theorem outstanding_set (hx : s.streams[i]? = some x) (h' : Held) :
    outstanding ⟨h'.retries, s.streams.set i h'.toTracked⟩ + x.stream.slot
      = s.outstanding + h'.stream.slot :=
  sum_map_set (fun x : Tracked => x.stream.slot) h'.toTracked hx

theorem Fresh.outstanding (hfresh : s.Fresh) : s.outstanding = 0 := by
  apply List.sum_eq_zero
  intro n hn
  obtain ⟨x, hx, rfl⟩ := List.mem_map.mp hn
  exact (hfresh.2 x hx).1

theorem Fresh.balanced (hfresh : s.Fresh) : s.Balanced := by
  refine ⟨?_, fun x hx => ?_⟩
  · rw [hfresh.1, hfresh.outstanding]
    rfl
  · obtain ⟨hslot, hscheduled, hreleased⟩ := hfresh.2 x hx
    omega

theorem Balanced.accounts (hb : s.Balanced) (hx : s.streams[i]? = some x) :
    ∃ n, n + x.stream.slot = s.outstanding ∧ Held.Accounts n ⟨x, s.retries⟩ := by
  have hle : x.stream.slot ≤ s.outstanding :=
    List.le_sum_of_mem (List.mem_map_of_mem (List.mem_of_getElem? hx))
  refine ⟨s.outstanding - x.stream.slot, by omega, ?_, hb.each x (List.mem_of_getElem? hx)⟩
  grind

theorem Balanced.step (hb : s.Balanced) (hstep : Step stats s a s') : s'.Balanced := by
  obtain ⟨x, h', hx, hok, rfl⟩ := step_call hstep
  obtain ⟨n, hn, haccounts⟩ := hb.accounts hx
  have hafter := Held.call_accounts hok haccounts
  have hcount := outstanding_set hx h'
  refine ⟨?_, fun y hy => ?_⟩
  · have hsum : outstanding ⟨h'.retries, s.streams.set a.1 h'.toTracked⟩
        = n + h'.stream.slot := by omega
    rw [hsum]
    exact hafter.current
  · rcases List.mem_or_eq_of_mem_set hy with hold | rfl
    · exact hb.each y hold
    · exact hafter.balance

theorem step_cleaned (hstep : Step stats s a s') {x' : Tracked}
    (hx : s.streams[i]? = some x) (hopen : x.stream.downstreamCleaned = false)
    (hx' : s'.streams[i]? = some x') (hcleaned : x'.stream.downstreamCleaned = true) :
    x'.stream.slot = 0 := by
  obtain ⟨y, h', hy, hok, rfl⟩ := step_call hstep
  by_cases hi : a.1 = i
  · -- the stream whose method was called
    subst hi
    obtain ⟨hlt, -⟩ := List.getElem?_eq_some_iff.mp hy
    simp only [List.getElem?_set_self hlt] at hx'
    cases hx'
    cases hx.symm.trans hy
    rcases Held.call_cleaned hok with hsame | hempty
    · exact absurd (hsame.symm.trans hcleaned) (by simp [hopen])
    · exact hempty
  · grind

/-- **Retry slots are conserved.**  After every run of the streams of a
cluster its counter is the number of retry states that hold a retry, so it is
not negative; every stream has given back what it has taken but for the retry
that it holds; and when a stream is cleaned it has given back everything. -/
theorem retries_conserved {s₀ s : Streams} {as : List (Nat × Held.Call)} (hfresh : s₀.Fresh)
    (hrun : Run (Step stats) s₀ as s) : s.retries.current = Int64.ofNat s.outstanding
    ∧ (s.outstanding < 2 ^ 63 → s.retries.current.toInt = s.outstanding
      ∧ 0 ≤ s.retries.current.toInt)
    ∧ (∀ x ∈ s.streams, x.scheduled = x.released + x.stream.slot)
    ∧ (∀ before a after t t', as = before ++ a :: after → Run (Step stats) s₀ before t →
        Step stats t a t' → ∀ (i : Nat) (x x' : Tracked), t.streams[i]? = some x →
        x.stream.downstreamCleaned = false → t'.streams[i]? = some x' →
        x'.stream.downstreamCleaned = true → x'.stream.slot = 0 ∧ x'.scheduled = x'.released) := by
  have hkept {s : Streams} {as : List (Nat × Held.Call)} (hrun : Run (Step stats) s₀ as s) :
      s.Balanced :=
    hrun.invariant Balanced (fun _ _ _ hb hstep => hb.step hstep) hfresh.balanced
  have hb := hkept hrun
  refine ⟨hb.current, fun hlt => ?_, hb.each, ?_⟩
  · have hcount : s.retries.current.toInt = s.outstanding := by
      rw [hb.current, Int64.toInt_ofNat_of_lt hlt]
    exact ⟨hcount, by omega⟩
  · intro before a after t t' _ hbefore hstep i x x' hx hopen hx' hcleaned
    have hempty := step_cleaned hstep hx hopen hx' hcleaned
    have hbalance := ((hkept hbefore).step hstep).each x' (List.mem_of_getElem? hx')
    exact ⟨hempty, by omega⟩

/-- One stream that waits for its response. -/
def waiting (max : UInt64) : Streams := ⟨⟨0, max⟩, [(Held.awaiting max).toTracked]⟩

theorem waiting_fresh (max : UInt64) : (waiting max).Fresh := by
  refine ⟨rfl, fun x hx => ?_⟩
  rw [List.mem_singleton.mp hx]
  exact ⟨rfl, rfl, rfl⟩

/-- A response with that status, and nothing after it. -/
def responded (code : GoString) : Nat × Held.Call :=
  (0, .upstreamHeaders (Held.answered code) true)

/-- A retry is scheduled, and its stream is cleaned. -/
theorem retries_conserved_cleaned :
    ∃ s, Run (Step fun _ => true) (waiting 0) [responded (str "500"), (0, .cleanStream)] s
      ∧ s.retries.current = Int64.ofNat s.outstanding
      ∧ s.streams.map (fun x => (x.scheduled, x.released)) = [(1, 1)] := by
  have hrun : Run (Step fun _ => true) (waiting 0) [responded (str "500"), (0, .cleanStream)] _ :=
    run_of_runSteps (f := step fun _ => true) rfl
  exact ⟨_, hrun, (retries_conserved (waiting_fresh 0) hrun).1, rfl⟩

end Streams

end Mosn.Proxy.Lifecycle
