/-
  Mosn.Proxy.Cleaned
  **WHAT A CLEANED STREAM STILL DOES.**

  `cleanStream` stops two of the three timers, destroys the filters and gives
  the header map of the request back to its pool.  A timer whose time is over
  runs its callback all the same, the timer of a retry is not stopped at all,
  and a filter can let a request or a response go on whenever it likes; none of
  them asks whether the stream was cleaned.

    • `cleaned_effects` — a run whose calls on cleaned streams are idle,
    • `cleanedStream_acts` — and some whose calls are not.

  Sender filters are not part of `DownStream`: for `ContinueEncoding` the
  response side is the one of `Mosn.Proxy.Filters.Sender`, cleaned at any time.
-/
import Mosn.Proxy.FinalResponse
import Mosn.Proxy.Filters.Sender

namespace Mosn.Proxy.Lifecycle

open Mosn.Lib Mosn.Types

namespace DownStream

/-! ## §1. Timers and receiver filters. -/

/-- What a stream has done outside of itself. -/
def effects (s : DownStream) : List Sent × Nat × Nat :=
  (s.sent, s.upstreamRequests, s.recycledWrites)

theorem Inert.effects {s s' : DownStream} (h : Inert s s') : s'.effects = s.effects := by
  unfold DownStream.effects
  rw [h.sent, h.requests, h.writes]

/-- The callback of a timer has nothing to do. -/
def idleCallback (s : DownStream) : TimerCallback → Bool
  | .onResponseTimeout => s.upstreamReset || s.downstreamResponseStarted
  | .onPerReqTimeout => s.upstreamReset || s.downstreamResponseStarted
  | .doRetry => false

/-- The same for every call on a stream that was cleaned. -/
def idle (s : DownStream) : Action → Bool
  | .fire t _ => !s.downstreamCleaned || s.idleCallback t.callback
  | .continueDecoding _ _ => !s.downstreamCleaned || s.upstreamProcessDone
  | _ => true

section Timers

variable {s s' : DownStream} {ask : Ask}

theorem hijackRequest_sent (s : DownStream) (code : Int) :
    (s.hijackRequest code).sent = s.sent ++ [.headers (some code) true] :=
  (endStream_inert _).sent

theorem hijackRequest_effects (s : DownStream) (code : Int) :
    (s.hijackRequest code).effects ≠ s.effects := by
  intro heq
  have hsent : (s.hijackRequest code).sent = s.sent := congrArg Prod.fst heq
  have hlength := congrArg List.length (s.hijackRequest_sent code)
  rw [hsent, List.length_append, List.length_singleton] at hlength
  omega

theorem giveUp_effects_iff (s : DownStream) (urtype : UpstreamResetType) :
    (s.giveUp urtype).effects = s.effects ↔ s.downstreamResponseStarted = true := by
  have hcleanUp := s.cleanUp_upkeep.inert
  rw [← hcleanUp.effects, ← hcleanUp.started]
  unfold giveUp
  dsimp only
  split
  next hstarted => exact ⟨fun _ => hstarted, fun _ => (endStream_inert _).effects⟩
  next hstarted =>
    exact ⟨fun heq => absurd heq (hijackRequest_effects _ _), fun h => absurd h hstarted⟩

variable {urtype : UpstreamResetType} {reason : StreamResetReason}

theorem onUpstreamReset_effects_iff (hok : s.onUpstreamReset ask urtype reason = .ok s') :
    s'.effects = s.effects ↔ s.upstreamReset = true ∨ s.downstreamResponseStarted = true := by
  rcases onUpstreamReset_cases hok with ⟨hreset, rfl⟩ | ⟨hreset, t, hupkeep, hcases⟩
  · exact ⟨fun _ => Or.inl hreset, fun _ => rfl⟩
  · -- what comes before giving up has no effect
    have hset : Inert s { s with upstreamReset := true } := ⟨⟨rfl, rfl, id⟩, rfl, rfl⟩
    have hinert := hset.trans hupkeep.inert
    rcases hcases with rfl | ⟨rfl, hstarted⟩
    · rw [← hinert.effects, giveUp_effects_iff, hinert.started, hreset]
      exact (or_iff_right Bool.false_ne_true).symm
    · exact ⟨fun _ => Or.inr hstarted, fun _ => hinert.effects⟩

theorem newUpstreamRequest_requests (s : DownStream) (ask : Ask) (endStream : Bool) :
    (s.newUpstreamRequest ask endStream).upstreamRequests = s.upstreamRequests + 1 := by
  unfold newUpstreamRequest
  dsimp only
  split
  · rfl
  · exact (offer_inert _ .upstream _).requests

theorem doRetry_effects (hok : s.doRetry ask = .ok s') : s'.effects ≠ s.effects := by
  intro heq
  rcases doRetry_cases hok with ⟨endStream, -, hupkeep⟩ | ⟨code, -, rfl⟩
  · -- one more upstream request
    have hrequests : s'.upstreamRequests = s.upstreamRequests := congrArg (fun e => e.2.1) heq
    rw [hupkeep.inert.requests, newUpstreamRequest_requests] at hrequests
    omega
  · -- two more replies
    have hsent : ((s.hijackRequest code).hijackRequest noHealthUpstreamCode).cleanUp.sent
        = s.sent := congrArg Prod.fst heq
    rw [(cleanUp_upkeep _).inert.sent, hijackRequest_sent, hijackRequest_sent] at hsent
    have hlength := congrArg List.length hsent
    simp only [List.length_append, List.length_singleton] at hlength
    omega

/-- **When the callback of a timer has an effect.** -/
theorem fire_effects_iff {callback : TimerCallback} (hok : s.timerCallback ask callback = .ok s') :
    s'.effects = s.effects ↔ s.idleCallback callback = true := by
  rcases timerCallback_cases hok with ⟨rfl, hretry⟩ | ⟨hne, hcases⟩
  · exact ⟨fun heq => absurd heq (doRetry_effects hretry), fun h => absurd h Bool.false_ne_true⟩
  · have hidle : s.idleCallback callback = (s.upstreamReset || s.downstreamResponseStarted) := by
      cases callback with
      | doRetry => exact absurd rfl hne
      | onResponseTimeout | onPerReqTimeout => rfl
    rw [hidle, Bool.or_eq_true]
    rcases hcases with ⟨hstarted, rfl⟩ | ⟨t, urtype, hupkeep, hreset⟩
    · exact ⟨fun _ => Or.inr hstarted, fun _ => rfl⟩
    · -- what a timeout does first has no effect of its own
      rw [← hupkeep.inert.effects, ← hupkeep.inert.started, ← hupkeep.upstreamReset]
      exact onUpstreamReset_effects_iff hreset

end Timers

end DownStream

/-- A timer or a receiver filter calls. -/
def Action.isCallback : Action → Bool
  | .fire _ _ => true
  | .continueDecoding _ _ => true
  | _ => false

namespace DownStream

theorem idle_effects {s s' : DownStream} {a : Action} (hidle : s.idle a = true)
    (hcleaned : s.downstreamCleaned = true) (ha : a.isCallback = true) (hstep : Step s a s') :
    s'.effects = s.effects := by
  cases hstep.happens with
  | offer t direction body hupkeep _ _ heq =>
    rw [heq]
    exact (hupkeep.inert.trans (t.offer_inert direction body)).effects
  | upkeep hupkeep => exact hupkeep.inert.effects
  | onDecodeError | control | job | other => exact absurd ha Bool.false_ne_true
  | fire t ask hok =>
    have hidle : (!s.downstreamCleaned || s.idleCallback t.callback) = true := hidle
    rw [hcleaned, Bool.not_true, Bool.false_or] at hidle
    exact (fire_effects_iff hok).mpr hidle
  | continueDecoding index ask hok =>
    -- `doContinue` returns at once
    have hidle : (!s.downstreamCleaned || s.upstreamProcessDone) = true := hidle
    rw [hcleaned, Bool.not_true, Bool.false_or] at hidle
    rw [doContinue, if_pos hidle] at hok
    cases hok
    rfl

/-- **Once it is cleaned, its callbacks have no effect**: at every call of a run. -/
def QuietOnceCleaned (s : DownStream) (as : List Action) : Prop :=
  EveryStep Step (fun t a => t.downstreamCleaned = true → a.isCallback = true →
    ∀ u, Step t a u → u.effects = t.effects) s as

theorem quietOnceCleaned {s : DownStream} {as : List Action}
    (hidle : EveryStep Step (fun t a => t.idle a = true) s as) : s.QuietOnceCleaned as := by
  intro before a after t has hrun hcleaned ha u hstep
  exact idle_effects (hidle before a after t has hrun) hcleaned ha hstep

end DownStream

end Mosn.Proxy.Lifecycle

namespace Mosn.Proxy.Filters

open Mosn.Lib Mosn.Types
open Mosn.Proxy.Lifecycle (FilterHeadersStatus FilterDataStatus FilterTrailersStatus)

/-! ## §2. Sender filters. -/

/-- The filter at the index lets nothing pass. -/
def Decisions.holds (d : Decisions) (index : Nat) : Bool :=
  d.headers index = .stopIteration && d.data index ≠ .continue_
    && d.trailers index = .stopIteration

namespace Sender

variable {d : Decisions} {s : Sender} {index : Nat}

theorem doAppendHeaders_held (hindex : index < s.senderFilters.count)
    (hd : d.headers index = .stopIteration) (endStream : Bool) :
    (s.doAppendHeaders d index endStream).response = s.response := by
  unfold doAppendHeaders runHeadersFilters
  rw [if_pos hindex, hd]
  rfl

theorem doAppendData_held (hd : d.data index ≠ .continue_) (n data : Nat) (endStream : Bool) :
    (doAppendData d (n + 1) s index data endStream).response = s.response := by
  unfold doAppendData
  split
  next hcont => exact absurd hcont hd
  · rfl
  · rfl
  · rfl

theorem doAppendTrailers_held (hd : d.trailers index = .stopIteration) (n : Nat)
    (trailers : Option HeaderMap) :
    (doAppendTrailers d (n + 1) s index trailers).response = s.response := by
  unfold doAppendTrailers
  rw [hd]
  rfl

theorem continueHeaders_held (hindex : index + 1 < s.senderFilters.count)
    (hd : d.headers (index + 1) = .stopIteration) :
    (s.continueHeaders d index).response = s.response := by
  unfold continueHeaders
  split
  · rfl
  · exact doAppendHeaders_held (s := s.modifyFilters (·.continueHeaders index)) hindex hd _

theorem continueBuffer_response (s : Sender) (index : Nat) :
    (s.continueBuffer index).response = s.response := by
  unfold continueBuffer
  split
  · rfl
  · rfl

/-- **`ContinueEncoding` gets no further than the next filter**, if that one
holds everything. -/
theorem continueEncoding_held (hindex : index + 1 < s.senderFilters.count)
    (hd : d.holds (index + 1) = true) : (s.continueEncoding d index).response = s.response := by
  simp only [Decisions.holds, Bool.and_eq_true, decide_eq_true_eq] at hd
  obtain ⟨⟨hheaders, hdata⟩, htrailers⟩ := hd
  -- the next filter is there
  obtain ⟨n, hn⟩ : ∃ n, s.senderFilters.count - (index + 1) = n + 1 :=
    ⟨s.senderFilters.count - (index + 2), by omega⟩
  unfold continueEncoding doContinueWith
  dsimp only
  rw [hn]
  have hfirst : ((s.modifyFilters (·.resume index)).continueHeaders d index).response
      = s.response :=
    continueHeaders_held (s := s.modifyFilters (·.resume index)) hindex hheaders
  generalize (s.modifyFilters (·.resume index)).continueHeaders d index = t at hfirst ⊢
  have hsecond : (if s.buffers.current.isSome || (t.senderFilters.filter index).stoppedNoBuf then
      doAppendData d (n + 1) (t.continueBuffer index) (index + 1)
        ((t.continueBuffer index).buffers.current.getD 0)
        ((t.continueBuffer index).downstreamRecvDone && !s.downstreamRespTrailers.isNone)
      else t).response = s.response := by
    split
    · rw [doAppendData_held hdata, continueBuffer_response, hfirst]
    · exact hfirst
  split
  · rw [doAppendTrailers_held htrailers]
    exact hsecond
  · exact hsecond

end Sender

/-- The response side of a stream that can be cleaned. -/
structure Encoding where
  sender : Sender
  downstreamCleaned : Bool := false

namespace Encoding

inductive Action where
  | sender (a : Sender.Action)
  | cleanStream

/-- A filter continues. -/
def Action.isCallback : Action → Bool
  | .sender (.continueEncoding _ _) => true
  | _ => false

/-- `cleanStream` leaves the response side as it is. -/
def step (s : Encoding) : Action → Option Encoding
  | .sender a => (s.sender.step a).map fun sender => { s with sender := sender }
  | .cleanStream => some { s with downstreamCleaned := true }

def Step (s : Encoding) (a : Action) (s' : Encoding) : Prop := s.step a = some s'

/-- On a cleaned stream a filter continues only in front of one that holds
everything. -/
def idle (s : Encoding) : Action → Bool
  | .sender (.continueEncoding index d) =>
    !s.downstreamCleaned
      || (decide (index + 1 < s.sender.senderFilters.count) && d.holds (index + 1))
  | _ => true

theorem idle_response {s s' : Encoding} {a : Action} (hidle : s.idle a = true)
    (hcleaned : s.downstreamCleaned = true) (ha : a.isCallback = true) (hstep : Step s a s') :
    s'.sender.response = s.sender.response := by
  cases a with
  | cleanStream => exact absurd ha Bool.false_ne_true
  | sender a =>
    cases a with
    | receive frame d => exact absurd ha Bool.false_ne_true
    | continueEncoding index d =>
      simp only [idle, hcleaned, Bool.not_true, Bool.false_or, Bool.and_eq_true,
        decide_eq_true_eq] at hidle
      obtain ⟨sender, hsender, rfl⟩ := Option.map_eq_some_iff.mp hstep
      simp only [Sender.step] at hsender
      split at hsender
      · cases hsender
        exact Sender.continueEncoding_held hidle.1 hidle.2
      · cases hsender

/-- **Once it is cleaned, its filters send nothing**: at every call of a run. -/
def QuietOnceCleaned (s : Encoding) (as : List Action) : Prop :=
  EveryStep Step (fun t a => t.downstreamCleaned = true → a.isCallback = true →
    ∀ u, Step t a u → u.sender.response = t.sender.response) s as

theorem quietOnceCleaned {s : Encoding} {as : List Action}
    (hidle : EveryStep Step (fun t a => t.idle a = true) s as) : s.QuietOnceCleaned as := by
  intro before a after t has hrun hcleaned ha u hstep
  exact idle_response (hidle before a after t has hrun) hcleaned ha hstep

end Encoding

end Mosn.Proxy.Filters

namespace Mosn.Proxy

open Mosn.Lib Mosn.Types
open Lifecycle (DownStream)
open Filters (Encoding Sender)

/-! ## §3. Whole runs. -/

/-- **A cleaned stream has no further effects** when the calls that come to it
are idle: a timeout finds the upstream reset or the response started, no retry
is due, `ContinueDecoding` finds the response finished, and the next filter
holds what `ContinueEncoding` lets go.  Streams with any number of filters,
every order of calls. -/
theorem cleaned_effects {streamID : GoString} {filters count : Nat} {recvDone : Bool}
    {as : List Lifecycle.Action} {bs : List Encoding.Action}
    (hidle : EveryStep DownStream.Step (fun t a => t.idle a = true)
      (DownStream.newStream streamID filters) as)
    (hheld : EveryStep Encoding.Step (fun t a => t.idle a = true)
      { sender := Sender.new count recvDone } bs) :
    (DownStream.newStream streamID filters).QuietOnceCleaned as
      ∧ Encoding.QuietOnceCleaned { sender := Sender.new count recvDone } bs :=
  ⟨DownStream.quietOnceCleaned hidle, Encoding.quietOnceCleaned hheld⟩

/-- The response cleans the stream, and then its stopped timer calls. -/
def lateTimeout : List Lifecycle.Action :=
  DownStream.timedRequest ++ [.upstreamHeaders ∅ true, .poll, .job fun _ => {},
    .fire ⟨0, .onResponseTimeout, true⟩ fun _ => {}]

/-- A filter holds the headers, the stream is cleaned, the next filter holds the
headers, too. -/
def heldAgain : List Encoding.Action :=
  [.sender (.receive (.headers ∅ true) { headers := fun _ => .stopIteration }), .cleanStream,
    .sender (.continueEncoding 0
      { headers := fun _ => .stopIteration, data := fun _ => .stopIterationAndBuffer,
        trailers := fun _ => .stopIteration })]

theorem lateTimeout_quiet :
    (∃ s, Run DownStream.Step (DownStream.newStream (str "7") 0) lateTimeout s
        ∧ s.downstreamCleaned = true ∧ s.sent = [.headers none true])
      ∧ (∃ s, Run Encoding.Step { sender := Sender.new 2 true } heldAgain s
        ∧ s.downstreamCleaned = true ∧ s.sender.response = [])
      ∧ (DownStream.newStream (str "7") 0).QuietOnceCleaned lateTimeout
      ∧ Encoding.QuietOnceCleaned { sender := Sender.new 2 true } heldAgain := by
  have hidle : checkSteps DownStream.step DownStream.idle (DownStream.newStream (str "7") 0)
      lateTimeout = true := rfl
  have hheld : checkSteps Encoding.step Encoding.idle { sender := Sender.new 2 true } heldAgain
      = true := rfl
  refine ⟨⟨_, run_of_runSteps (f := DownStream.step) rfl, rfl, rfl⟩,
    ⟨_, run_of_runSteps (f := Encoding.step) rfl, rfl, rfl⟩, ?_⟩
  exact cleaned_effects (everyStep_of_checkSteps (fun _ _ h => h) hidle)
    (everyStep_of_checkSteps (fun _ _ h => h) hheld)

/-- The client resets the stream. -/
def resetRequest : List Lifecycle.Action :=
  DownStream.timedRequest ++ [.onResetStream .remoteReset, .control fun _ => {},
    .control fun _ => {}]

/-- **The timer of a cleaned stream calls**: it was stopped when its time was over,
answers the client, and writes to a map that is not the stream's any more. -/
theorem cleanedStream_acts :
    ∃ s t, Run DownStream.Step (DownStream.newStream (str "7") 0) resetRequest s
      ∧ s.downstreamCleaned = true
      ∧ DownStream.Step s (.fire ⟨0, .onResponseTimeout, true⟩ fun _ => {}) t
      ∧ t.sent = s.sent ++ [.headers (some timeoutExceptionCode) true]
      ∧ t.recycledWrites = s.recycledWrites + 1 :=
  ⟨_, _, run_of_runSteps (f := DownStream.step) rfl, rfl, rfl, rfl, rfl⟩

end Mosn.Proxy
