/-
  Mosn.Proxy.Filters.Headers
  **WHO SEES THE HEADERS.**

  A filter should be asked about the headers once all filters before it let
  them pass, before the request is routed or the response is sent.  The loops
  ask one filter and return: on either side this comes out right exactly when
  that filter stops or is the last one.
-/
import Mosn.Proxy.Filters.Receiver
import Mosn.Proxy.Filters.Sender

namespace Mosn.Proxy.Filters

open Mosn.Proxy.Lifecycle (FilterHeadersStatus)

/-- The calls of one pass from `index` on: each filter that only filters which
continue are before is asked, before the headers have passed; no other is. -/
def SeenInOrder (status : Nat → FilterHeadersStatus) (count index : Nat) (calls : List HeaderCall) :
    Prop :=
  (∀ k, index ≤ k → k < count → (∀ j, index ≤ j → j < k → status j = .continue_) →
      .filter k ∈ calls.takeWhile (· ≠ .passed))
    ∧ ∀ k, .filter k ∈ calls → ∀ j, index ≤ j → j < k → status j = .continue_

/-- The calls that one pass makes. -/
def passCalls (pass : HeadersPass) : List HeaderCall :=
  pass.asked.map .filter ++ if pass.stopped then [] else [.passed]

variable {status : Nat → FilterHeadersStatus} {count index : Nat}

theorem seenInOrder_none (h : count ≤ index) : SeenInOrder status count index [.passed] := by
  refine ⟨fun k hk hkc => ?_, fun k hk => ?_⟩
  · omega
  · simp at hk

theorem seenInOrder_one
    {rest : List HeaderCall} (hindex : index < count) (hrest : rest = [] ∨ rest = [.passed]) :
    SeenInOrder status count index (.filter index :: rest)
      ↔ (index + 1 < count → status index = .stopIteration) := by
  have hcalls : ∀ k, HeaderCall.filter k ∈ .filter index :: rest → k = index := by
    intro k hk
    rcases hrest with rfl | rfl
    · simpa using hk
    · simpa using hk
  have hbefore : HeaderCall.filter index ∈ (.filter index :: rest).takeWhile (· ≠ .passed) := by
    rw [List.takeWhile_cons_of_pos (by simp)]
    exact .head _
  constructor
  · intro ⟨hseen, _⟩ hnext
    by_contra hstatus
    -- the next filter should have been asked
    have hmem := hseen (index + 1) (Nat.le_succ _) hnext (by
      intro j hj hj'
      rw [show j = index by omega]
      cases hcont : status index with
      | continue_ => rfl
      | stopIteration => exact absurd hcont hstatus)
    have heq := hcalls (index + 1) (List.takeWhile_subset _ hmem)
    omega
  · intro hstop
    refine ⟨fun k hk hkc hall => ?_, fun k hk j hj hj' => ?_⟩
    · by_cases hki : k = index
      · rw [hki]
        exact hbefore
      · have hcont := hall index (Nat.le_refl _) (by omega)
        rw [hstop (by omega)] at hcont
        cases hcont
    · have := hcalls k hk
      omega

theorem passCalls_seenInOrder (status : Nat → FilterHeadersStatus) (chain : Chain) (index : Nat) :
    SeenInOrder status chain.count index (passCalls (runHeadersFilters status chain index))
      ↔ (index + 1 < chain.count → status index = .stopIteration) := by
  unfold runHeadersFilters
  by_cases hindex : index < chain.count
  · rw [if_pos hindex]
    cases hstatus : status index with
    | stopIteration =>
      have hone : SeenInOrder status chain.count index [.filter index] ↔ _ :=
        seenInOrder_one hindex (Or.inl rfl)
      rwa [hstatus] at hone
    | continue_ =>
      have hone : SeenInOrder status chain.count index [.filter index, .passed] ↔ _ :=
        seenInOrder_one hindex (Or.inr rfl)
      rwa [hstatus] at hone
  · rw [if_neg hindex]
    refine ⟨fun _ h => absurd h (by omega), fun _ => seenInOrder_none (by omega)⟩

theorem Receiver.doReceiveHeaders_calls (d : Decisions) (s : Receiver) (index : Nat)
    (endStream : Bool) : (s.doReceiveHeaders d index endStream).headerCalls
      = s.headerCalls ++ passCalls (runHeadersFilters d.headers s.receiverFilters index) := by
  unfold Receiver.doReceiveHeaders passCalls
  dsimp only
  split
  · rw [List.append_nil]
  · exact List.append_assoc ..

theorem Sender.doAppendHeaders_calls (d : Decisions) (s : Sender) (index : Nat) (endStream : Bool) :
    (s.doAppendHeaders d index endStream).headerCalls
      = s.headerCalls ++ passCalls (runHeadersFilters d.headers s.senderFilters index) := by
  unfold Sender.doAppendHeaders passCalls
  dsimp only
  split
  · rw [List.append_nil]
  · exact List.append_assoc ..

/-- **Every filter sees the headers exactly where the loops have nothing left to
do.**  Of receiver and of sender filters, in chains of any length, from the
beginning (`index = 0`) or behind a filter that continues: the filters are
asked in order, each of them before the headers have passed, exactly when the
first one that is asked stops or is the last of the chain. -/
theorem headers_seen_iff (d : Decisions) (index : Nat) (endStream : Bool) :
    (∀ s : Receiver, ∃ calls,
        (s.doReceiveHeaders d index endStream).headerCalls = s.headerCalls ++ calls
          ∧ (SeenInOrder d.headers s.receiverFilters.count index calls
            ↔ (index + 1 < s.receiverFilters.count → d.headers index = .stopIteration)))
      ∧ ∀ s : Sender, ∃ calls,
        (s.doAppendHeaders d index endStream).headerCalls = s.headerCalls ++ calls
          ∧ (SeenInOrder d.headers s.senderFilters.count index calls
            ↔ (index + 1 < s.senderFilters.count → d.headers index = .stopIteration)) :=
  ⟨fun s => ⟨_, s.doReceiveHeaders_calls d index endStream, passCalls_seenInOrder ..⟩,
    fun s => ⟨_, s.doAppendHeaders_calls d index endStream, passCalls_seenInOrder ..⟩⟩

/-- **Of two filters that let everything pass, the second is not asked**, and the
request is routed; likewise a response is sent. -/
theorem secondFilter_not_asked :
    ((Receiver.new 2).receiveHeaders {} ∅ true).headerCalls = [.filter 0, .passed]
      ∧ ((Sender.new 2 true).onUpstreamHeaders {} ∅ true).headerCalls = [.filter 0, .passed] :=
  ⟨rfl, rfl⟩

end Mosn.Proxy.Filters
