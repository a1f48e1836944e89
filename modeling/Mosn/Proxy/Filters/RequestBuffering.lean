/-
  Mosn.Proxy.Filters.RequestBuffering
  **WHEN A REQUEST THAT FILTERS KEEP BACK ARRIVES AS IT CAME.**

  The stream has one buffer.  Each chunk that comes in takes the place of the
  one before, a filter that continues sends what is in the buffer whether or
  not that was sent before, and trailers that are stopped are not kept.  So
  requests only arrive as they came if nothing comes while data is kept back
  (`Admits`).  `Phase` says where a request is along such a run: what has come
  is what was sent and what the filters keep back.
-/
import Mosn.Proxy.Filters.Receiver

namespace Mosn.Proxy.Filters

open Mosn.Lib Mosn.Types Mosn.Protocol

namespace Receiver

attribute [local grind] modifyFilters

/-! ## §1. Steps without a loss. -/

/-- The answers about data from an index on: who lets it pass keeps nothing
back; who stops it, with buffering, was asked about the headers. -/
def admitsData (d : Decisions) (c : Chain) : Nat → Nat → Bool
  | 0, _ => true
  | n + 1, index =>
    match d.data index with
    | .continue_ => !(c.filter index).stopped && admitsData d c n (index + 1)
    | .stopIterationAndBuffer => (c.filter index).stopped || (c.filter index).headersContinued
    | .stopIterationAndWatermark | .stopIterationNoBuffer => false

/-- The stream after the headers in `doContinue`. -/
def continued (d : Decisions) (s : Receiver) (index : Nat) : Receiver :=
  (s.modifyFilters (·.resume index)).continueHeaders d index

/-- A step that loses nothing.  A chunk comes when nothing is kept back, or only
the headers; trailers come when nothing is, and pass; filters continue in the
order of the chain. -/
def Admits (s : Receiver) : Action → Prop
  | .receive (.headers ..) _ => True
  | .receive (.data ..) d =>
    (s.buffers.current = none
        ∨ ∀ i < s.receiverFilters.count, (s.receiverFilters.filter i).stopped = false)
      ∧ admitsData d s.receiverFilters s.receiverFilters.count 0 = true
  | .receive (.trailers _) d =>
    (∀ i < s.receiverFilters.count, (s.receiverFilters.filter i).stopped = false)
      ∧ ∀ i < s.receiverFilters.count, d.trailers i = .continue_
  | .continueDecoding index d =>
    (∀ i < index, (s.receiverFilters.filter i).stopped = false)
      ∧ (s.buffers.current ≠ none →
        admitsData d (s.continued d index).receiverFilters
          (s.receiverFilters.count - (index + 1)) (index + 1) = true)

instance (s : Receiver) : (a : Action) → Decidable (s.Admits a)
  | .receive (.headers ..) _ => inferInstanceAs (Decidable True)
  | .receive (.data ..) _ => inferInstanceAs (Decidable (_ ∧ _))
  | .receive (.trailers _) _ => inferInstanceAs (Decidable (_ ∧ _))
  | .continueDecoding .. => inferInstanceAs (Decidable (_ ∧ _))

variable {s t s' : Receiver} {c : Chain} {j index buf n : Nat} {d : Decisions} {e : Bool}
  {bytes : List UInt8} {before : List Frame}

theorem handleBufferData_self {data : Nat} (h : s.buffers.current = some data) :
    s.handleBufferData data = s := by
  unfold handleBufferData
  rw [Buffers.handleBufferData_self h]

/-- **A loop over data**: the first filter that does not let it pass keeps it
back, or it is sent. -/
theorem doReceiveData_cases (d : Decisions) (n data : Nat) (endStream : Bool) (s : Receiver)
    (hdone : s.upstreamProcessDone = false) (hcurrent : s.buffers.current = some data) :
    ∀ index, admitsData d s.receiverFilters n index = true →
    (∃ j, index ≤ j ∧ j < index + n
        ∧ ((s.receiverFilters.filter j).stopped = true
          ∨ (s.receiverFilters.filter j).headersContinued = true)
        ∧ (∀ i, index ≤ i → i < j → (s.receiverFilters.filter i).stopped = false)
        ∧ doReceiveData d n s index data endStream = some (s.modifyFilters (·.stop j)))
      ∨ (∀ i, index ≤ i → i < index + n → (s.receiverFilters.filter i).stopped = false)
        ∧ doReceiveData d n s index data endStream = s.appendData data endStream := by
  induction n with
  | zero =>
    intro index _
    exact Or.inr ⟨fun i hi hi' => by omega, rfl⟩
  | succ n ih =>
    intro index hadmits
    unfold admitsData at hadmits
    unfold doReceiveData
    rw [if_neg (by rw [hdone]; simp)]
    cases hstatus : d.data index with
    | continue_ =>
      rw [hstatus] at hadmits
      dsimp only at hadmits ⊢
      rw [Bool.and_eq_true, Bool.not_eq_true'] at hadmits
      obtain ⟨hstopped, hrest⟩ := hadmits
      rw [if_neg (by rw [hstopped]; simp)]
      rcases ih (index + 1) hrest with ⟨j, hj, hjn, hholds, hbetween, heq⟩ | ⟨hall, heq⟩
      all_goals grind
    | stopIterationAndBuffer =>
      rw [hstatus] at hadmits
      dsimp only at hadmits ⊢
      rw [Bool.or_eq_true] at hadmits
      refine Or.inl ⟨index, Nat.le_refl _, by omega, hadmits, fun i hi hij => by omega, ?_⟩
      rw [handleBufferData_self (s := s.modifyFilters (·.stop index)) hcurrent]
    | stopIterationAndWatermark | stopIterationNoBuffer =>
      rw [hstatus] at hadmits
      cases hadmits

theorem doReceiveTrailers_pass (d : Decisions) (n : Nat) (trailers : HeaderMap) (s : Receiver)
    (hdone : s.upstreamProcessDone = false)
    (hstopped : ∀ i, (s.receiverFilters.filter i).stopped = false) :
    ∀ index, (∀ i, index ≤ i → i < index + n → d.trailers i = .continue_) →
    doReceiveTrailers d n s index trailers = s.appendTrailers trailers := by
  induction n with
  | zero =>
    intro index _
    rfl
  | succ n ih =>
    intro index hall
    unfold doReceiveTrailers
    grind

/-! ## §2. The headers. -/

/-- What the handling of headers leaves alone. -/
structure SameRequest (s s' : Receiver) : Prop where
  count : s'.receiverFilters.count = s.receiverFilters.count
  buffers : s'.buffers = s.buffers
  headers : s'.downstreamReqHeaders = s.downstreamReqHeaders
  trailers : s'.downstreamReqTrailers = s.downstreamReqTrailers
  recvDone : s'.downstreamRecvDone = s.downstreamRecvDone
  done : s'.upstreamProcessDone = s.upstreamProcessDone
  received : s'.received = s.received

theorem sameRequest_doReceiveHeaders (d : Decisions) (s : Receiver) (index : Nat)
    (endStream : Bool) : SameRequest s (s.doReceiveHeaders d index endStream) := by
  unfold doReceiveHeaders runHeadersFilters
  split
  · split <;> exact ⟨rfl, rfl, rfl, rfl, rfl, rfl, rfl⟩
  · exact ⟨rfl, rfl, rfl, rfl, rfl, rfl, rfl⟩

theorem sameRequest_continued (d : Decisions) (s : Receiver) (index : Nat) :
    SameRequest s (s.continued d index) := by
  unfold continued continueHeaders
  split
  · exact ⟨rfl, rfl, rfl, rfl, rfl, rfl, rfl⟩
  · obtain ⟨hcount, hbuffers, hheaders, htrailers, hrecv, hdone, hreceived⟩ :=
      sameRequest_doReceiveHeaders d
        ((s.modifyFilters (·.resume index)).modifyFilters (·.continueHeaders index)) (index + 1)
        (s.downstreamRecvDone && s.buffers.current.isNone && s.downstreamReqTrailers.isNone)
    exact ⟨hcount, hbuffers, hheaders, htrailers, hrecv, hdone, hreceived⟩

/-! ## §3. The phases of a request. -/

/-- Nobody keeps anything back. -/
@[local grind]
def Free (c : Chain) : Prop := ∀ i, (c.filter i).stopped = false

/-- Where a request is. -/
inductive Phase (s : Receiver) : Prop where
  /-- Nothing has come yet. -/
  | fresh : s.received = [] → s.upstream = [] → s.buffers.current = none →
      s.downstreamReqTrailers = none → Free s.receiverFilters →
      (∀ i, (s.receiverFilters.filter i).headersContinued = false) → Phase s
  /-- All that has come was sent. -/
  | passed (last : Frame) : s.upstreamRequest = true → s.upstream = s.received →
      s.received.getLast? = some last → (s.downstreamReqTrailers = none ∨ last.ends = true) →
      Free s.receiverFilters → Phase s
  /-- A filter keeps the last chunk back. -/
  | data (j buf : Nat) (e : Bool) : s.upstreamRequest = true →
      s.received = s.upstream ++ [.data (s.buffers.bytes buf) e] →
      s.buffers.current = some buf → s.downstreamRecvDone = e →
      s.downstreamReqTrailers = none →
      (s.receiverFilters.filter j).headersContinued = true →
      (∀ i, (s.receiverFilters.filter i).stopped = decide (i = j)) → Phase s
  /-- A filter keeps the headers back. -/
  | headers (h : Nat) (e : Bool) : s.received = [.headers s.downstreamReqHeaders e] →
      s.upstream = [] → s.buffers.current = none → s.downstreamRecvDone = e →
      s.downstreamReqTrailers = none →
      (∀ i, h ≤ i → (s.receiverFilters.filter i).headersContinued = false) →
      (∀ i, (s.receiverFilters.filter i).stopped = decide (i = h)) → Phase s
  /-- A filter keeps the headers back, and the same or one before it the first
  chunk. -/
  | both (h a buf : Nat) (e : Bool) :
      s.received = [.headers s.downstreamReqHeaders false, .data (s.buffers.bytes buf) e] →
      s.upstream = [] → s.buffers.current = some buf → s.downstreamRecvDone = e →
      s.downstreamReqTrailers = none →
      (∀ i, h ≤ i → (s.receiverFilters.filter i).headersContinued = false) → a ≤ h →
      (a < h → (s.receiverFilters.filter a).headersContinued = true) →
      (∀ i, (s.receiverFilters.filter i).stopped = decide (i = h ∨ i = a)) → Phase s

/-- Flags that are in order: who is marked as stopped is there and waits. -/
@[local grind cases]
structure Tidy (c : Chain) : Prop where
  noBuf : ∀ i, (c.filter i).stoppedNoBuf = false
  waits : ∀ i, (c.filter i).waits = (c.filter i).stopped
  bound : ∀ i, (c.filter i).stopped = true → i < c.count

theorem Tidy.stop (hc : Tidy c) (hj : j < c.count) : Tidy (c.stop j) := by
  refine ⟨fun i => ?_, fun i => ?_, fun i hi => ?_⟩
  · rw [Chain.filter_stop]
    split
    · exact hc.noBuf j
    · exact hc.noBuf i
  · rw [Chain.filter_stop]
    split
    · rfl
    · exact hc.waits i
  · rw [Chain.filter_stop] at hi
    split at hi
    · rename_i hij
      rw [hij]
      exact hj
    · exact hc.bound i hi

theorem Tidy.resume (hc : Tidy c) (j : Nat) : Tidy (c.resume j) := by
  refine ⟨fun i => ?_, fun i => ?_, fun i hi => ?_⟩
  · rw [Chain.filter_resume]
    split
    · exact hc.noBuf j
    · exact hc.noBuf i
  · rw [Chain.filter_resume]
    split
    · rfl
    · exact hc.waits i
  · rw [Chain.filter_resume] at hi
    split at hi
    · cases hi
    · exact hc.bound i hi

theorem Tidy.continueHeaders (hc : Tidy c) (j : Nat) : Tidy (c.continueHeaders j) := by
  refine ⟨fun i => ?_, fun i => ?_, fun i hi => ?_⟩
  · grind [Chain.filter_continueHeaders]
  · grind [Chain.filter_continueHeaders]
  · grind [Chain.filter_continueHeaders, Chain.continueHeaders, Chain.modify]

/-- What holds along runs without a loss. -/
structure Inv (s : Receiver) : Prop where
  done : s.upstreamProcessDone = false
  tidy : Tidy s.receiverFilters
  phase : s.Phase

theorem inv_new (count : Nat) : (new count).Inv where
  done := rfl
  tidy := ⟨fun _ => rfl, fun _ => rfl, fun _ h => by cases h⟩
  phase := .fresh rfl rfl rfl rfl (fun _ => rfl) fun _ => rfl

/-! ## §4. What is kept back. -/

/-- The headers, if a filter keeps them back. -/
def keptHeaders (s : Receiver) (h : Option Nat) : List Frame :=
  h.toList.map fun _ =>
    .headers s.downstreamReqHeaders (s.downstreamRecvDone && s.buffers.current.isNone)

/-- The chunk in the buffer. -/
def keptData (s : Receiver) : List Frame :=
  s.buffers.current.toList.map fun buf => .data (s.buffers.bytes buf) s.downstreamRecvDone

/-- The headers were sent, or a filter keeps them back and nobody behind it was
asked about them. -/
def HeadersAt (s : Receiver) : Option Nat → Prop
  | none => s.upstreamRequest = true
  | some h => s.upstream = [] ∧ ∀ i, h ≤ i → (s.receiverFilters.filter i).headersContinued = false

/-- The headers were sent or `h` keeps them back; the chunk in the buffer is on
its way or `a` keeps it back. -/
structure Kept (s : Receiver) (h a : Option Nat) : Prop where
  done : s.upstreamProcessDone = false
  tidy : Tidy s.receiverFilters
  trailers : s.downstreamReqTrailers = none
  came : s.received ≠ []
  received : s.received = s.upstream ++ s.keptHeaders h ++ s.keptData
  headers : s.HeadersAt h
  stops : ∀ i, (s.receiverFilters.filter i).stopped = decide (some i = h ∨ some i = a)

variable {h a : Option Nat}

theorem Kept.inv (hk : s.Kept h none) (hcurrent : s.buffers.current = none) : s.Inv := by
  obtain ⟨hdone, htidy, htrailers, hcame, hreceived, hheaders, hstops⟩ := hk
  simp only [keptData, keptHeaders, hcurrent] at hreceived
  refine ⟨hdone, htidy, ?_⟩
  cases h with
  | none =>
    refine .passed _ hheaders ?_ (List.getLast?_eq_some_getLast hcame) (Or.inl htrailers) ?_
    · simpa using hreceived.symm
    · intro i
      simp [hstops i]
  | some k =>
    refine .headers k _ ?_ hheaders.1 hcurrent rfl htrailers hheaders.2 ?_
    · simpa [hheaders.1] using hreceived
    · intro i
      simp [hstops i]

/-- **The headers from an index on**: the filter there stops them, or they are
sent. -/
theorem doReceiveHeaders_kept (d : Decisions) (index : Nat) (hdone : s.upstreamProcessDone = false)
    (htidy : Tidy s.receiverFilters) (htrailers : s.downstreamReqTrailers = none)
    (hupstream : s.upstream = []) (hreceived : s.received = s.keptHeaders (some 0) ++ s.keptData)
    (hfresh : ∀ i, index ≤ i → (s.receiverFilters.filter i).headersContinued = false)
    (hfree : Free s.receiverFilters) :
    ∃ h, (s.doReceiveHeaders d index (s.downstreamRecvDone && s.buffers.current.isNone
        && s.downstreamReqTrailers.isNone)).Kept h none ∧ ∀ k, h = some k → index ≤ k := by
  have hcame : s.received ≠ [] := by simp [hreceived, keptHeaders]
  unfold doReceiveHeaders runHeadersFilters
  by_cases hindex : index < s.receiverFilters.count
  · rw [if_pos hindex]
    cases d.headers index with
    | stopIteration =>
      refine ⟨some index, ⟨hdone, htidy.stop hindex, htrailers, hcame, ?_, ⟨hupstream, ?_⟩, ?_⟩, ?_⟩
      · simpa [keptHeaders, keptData, hupstream] using hreceived
      · grind [Chain.filter_stop]
      · grind [Chain.filter_stop]
      · grind
    | continue_ =>
      refine ⟨none, ⟨hdone, htidy.continueHeaders index, htrailers, hcame, ?_, rfl, ?_⟩, nofun⟩
      · simpa [keptHeaders, keptData, hupstream, htrailers] using hreceived
      · grind [Chain.filter_continueHeaders]
  · rw [if_neg hindex]
    refine ⟨none, ⟨hdone, htidy, htrailers, hcame, ?_, rfl, ?_⟩, nofun⟩
    · simpa [keptHeaders, keptData, hupstream, htrailers] using hreceived
    · intro i
      simpa using hfree i

/-- **The first filter that keeps something back continues**: the headers, or a
chunk in front of them. -/
theorem Kept.continued (hk : s.Kept h a)
    (hstopped : (s.receiverFilters.filter index).stopped = true)
    (hfirst : ∀ i < index, (s.receiverFilters.filter i).stopped = false)
    (hchunk : ∀ j, a = some j → (s.receiverFilters.filter j).headersContinued = true ∨ h = a) :
    ∃ h', (s.continued d index).Kept h' none ∧ ∀ k, h' = some k → index < k := by
  obtain ⟨hdone, htidy, htrailers, hcame, hreceived, hheaders, hstops⟩ := hk
  unfold Receiver.continued Receiver.continueHeaders
  rw [show ((s.modifyFilters (·.resume index)).receiverFilters.filter index).headersContinued
    = (s.receiverFilters.filter index).headersContinued by
      simp [modifyFilters, Chain.filter_resume]]
  split
  next hcontinued =>
    -- it keeps the chunk back, in front of the headers
    have hlt : ∀ k, h = some k → index < k := by
      rintro k rfl
      have hfresh := hheaders.2
      grind
    refine ⟨h, ⟨hdone, htidy.resume index, htrailers, hcame, hreceived, ?_, ?_⟩, hlt⟩
    · cases h with
      | none => exact hheaders
      | some k =>
        have hfresh := hheaders.2
        exact ⟨hheaders.1, by grind [Chain.filter_resume]⟩
    · grind [Chain.filter_resume]
  next hasked =>
    obtain rfl : h = some index := by grind
    obtain ⟨hupstream, hfresh⟩ := hheaders
    rw [hupstream] at hreceived
    exact doReceiveHeaders_kept d (index + 1)
      (s := (s.modifyFilters (·.resume index)).modifyFilters (·.continueHeaders index)) hdone
      ((htidy.resume index).continueHeaders index) htrailers hupstream hreceived
      (by grind [Chain.filter_resume, Chain.filter_continueHeaders])
      (by grind [Chain.filter_resume, Chain.filter_continueHeaders])

theorem continueDecoding_headers
    (hdone : s.upstreamProcessDone = false) (htrailers : s.downstreamReqTrailers = none)
    (htidy : Tidy (s.continued d index).receiverFilters) (hcurrent : s.buffers.current = none) :
    s.continueDecoding d index = some (s.continued d index) := by
  unfold continueDecoding doContinueWith
  rw [if_neg (by rw [hdone]; simp), hcurrent, htrailers]
  dsimp only
  rw [show (s.modifyFilters (·.resume index)).continueHeaders d index = s.continued d index
    from rfl, htidy.noBuf]
  rfl

theorem continueDecoding_data
    (hdone : s.upstreamProcessDone = false) (htrailers : s.downstreamReqTrailers = none)
    (htidy : Tidy (s.continued d index).receiverFilters) (hcurrent : s.buffers.current = some buf) :
    s.continueDecoding d index
      = doReceiveData d (s.receiverFilters.count - (index + 1)) (s.continued d index) (index + 1)
          buf s.downstreamRecvDone := by
  have hsame := sameRequest_continued d s index
  have hcurrent' : (s.continued d index).buffers.current = some buf := by
    rw [hsame.buffers, hcurrent]
  unfold continueDecoding doContinueWith
  rw [if_neg (by rw [hdone]; simp), hcurrent, htrailers]
  dsimp only
  rw [show (s.modifyFilters (·.resume index)).continueHeaders d index = s.continued d index
    from rfl]
  have hbuffer : (s.continued d index).continueBuffer index = s.continued d index := by
    unfold continueBuffer
    rw [htidy.noBuf, hcurrent']
    rfl
  rw [hbuffer, hcurrent', hsame.recvDone]
  simp

/-! ## §5. A chunk on its way. -/

theorem Kept.dataLoop (hk : s.Kept h none) (hcurrent : s.buffers.current = some buf)
    (hadmits : admitsData d s.receiverFilters n index = true)
    (hn : index + n = s.receiverFilters.count) (hindex : ∀ k, h = some k → index ≤ k) :
    ∃ s', doReceiveData d n s index buf s.downstreamRecvDone = some s' ∧ s'.Inv := by
  obtain ⟨hdone, htidy, htrailers, hcame, hreceived, hheaders, hstops⟩ := hk
  simp only [keptHeaders, keptData, hcurrent, Option.isNone_some, Bool.and_false,
    Option.toList_some, List.map_cons, List.map_nil] at hreceived
  rcases doReceiveData_cases d n buf s.downstreamRecvDone s hdone hcurrent index hadmits with
    ⟨j, hj, hjn, hholds, hbefore, heq⟩ | ⟨hall, heq⟩
  · refine ⟨_, heq, hdone, htidy.stop (by omega), ?_⟩
    cases h with
    | none =>
      rw [Option.toList_none, List.map_nil, List.append_nil] at hreceived
      refine .data j buf _ hheaders hreceived hcurrent rfl htrailers ?_ fun i => ?_
      all_goals grind [Chain.filter_stop]
    | some k =>
      obtain ⟨hupstream, hfresh⟩ := hheaders
      have hjk : j ≤ k := by grind [htidy.bound k]
      rw [hupstream] at hreceived
      refine .both k j buf _ hreceived hupstream hcurrent rfl htrailers (fun i hi => ?_) hjk
        (fun hlt => ?_) fun i => ?_
      all_goals grind [Chain.filter_stop]
  · cases h with
    | none =>
      rw [Option.toList_none, List.map_nil, List.append_nil] at hreceived
      rw [heq]
      unfold appendData
      rw [if_pos (show s.upstreamRequest = true from hheaders)]
      refine ⟨_, rfl, hdone, htidy, .passed _ hheaders hreceived.symm
        (List.getLast?_eq_some_getLast hcame) (Or.inl htrailers) fun i => ?_⟩
      simpa using hstops i
    | some k =>
      have hno := hall k (hindex k rfl)
      grind [htidy.bound k]

/-! ## §6. Every step. -/

theorem follows_some {received : List Frame} {last frame : Frame}
    (hlast : received.getLast? = some last) (h : Frame.follows received frame = true) :
    frame.isHeaders = false ∧ last.ends = false := by
  unfold Frame.follows at h
  rw [hlast] at h
  simpa using h

theorem inv_receiveHeaders {headers : HeaderMap}
    (hdone : s.upstreamProcessDone = false) (htidy : Tidy s.receiverFilters)
    (hreceived : s.received = [.headers headers e]) (hupstream : s.upstream = [])
    (hcurrent : s.buffers.current = none) (htrailers : s.downstreamReqTrailers = none)
    (hfree : Free s.receiverFilters)
    (hfresh : ∀ i, (s.receiverFilters.filter i).headersContinued = false) :
    (s.receiveHeaders d headers e).Inv := by
  obtain ⟨h, hk, -⟩ := doReceiveHeaders_kept d 0
    (s := { s with downstreamRecvDone := e, downstreamReqHeaders := headers }) hdone htidy
    htrailers hupstream (by simp [keptHeaders, keptData, hcurrent, hreceived])
    (fun i _ => hfresh i) hfree
  have he : (e && s.buffers.current.isNone && s.downstreamReqTrailers.isNone) = e := by
    simp [hcurrent, htrailers]
  rw [show ((_ && _) && _ : Bool) = e from he] at hk
  exact hk.inv ((congrArg _ (sameRequest_doReceiveHeaders ..).buffers).trans hcurrent)

theorem keptData_assign :
    keptData { s with buffers := s.buffers.assign bytes, downstreamRecvDone := e }
      = [.data bytes e] :=
  congrArg (fun bytes => [Frame.data bytes e]) (s.buffers.bytes_assign bytes)

theorem Kept.receiveData
    (hk : Kept { s with buffers := s.buffers.assign bytes, downstreamRecvDone := e } h none)
    (hadmits : admitsData d s.receiverFilters s.receiverFilters.count 0 = true)
    (hstep : s.receiveData d bytes e = some s') : s'.Inv := by
  obtain ⟨t, ht, hinv⟩ := hk.dataLoop rfl hadmits (Nat.zero_add _) fun k _ => Nat.zero_le k
  unfold Receiver.receiveData at hstep
  rw [d.clone_eq bytes, if_neg (by rw [hk.done]; simp), ht] at hstep
  cases hstep
  exact hinv

theorem inv_receiveTrailers {trailers : HeaderMap}
    (hdone : s.upstreamProcessDone = false) (htidy : Tidy s.receiverFilters)
    (hrequest : s.upstreamRequest = true) (hupstream : s.upstream = before)
    (hreceived : s.received = before ++ [.trailers (some trailers)])
    (hfree : Free s.receiverFilters)
    (hall : ∀ i < s.receiverFilters.count, d.trailers i = .continue_)
    (h : s.receiveTrailers d trailers = some s') : s'.Inv := by
  unfold receiveTrailers at h
  rw [if_neg (by rw [hdone]; simp), doReceiveTrailers_pass d s.receiverFilters.count trailers
    { s with downstreamRecvDone := true } hdone hfree 0 (fun i _ hi => hall i (by omega))] at h
  unfold appendTrailers at h
  rw [if_pos hrequest] at h
  cases h
  refine ⟨hdone, htidy, .passed (.trailers (some trailers)) hrequest ?_ ?_ (Or.inr rfl) hfree⟩
  · grind
  · show s.received.getLast? = _
    rw [hreceived, List.getLast?_concat]

theorem Kept.continueDecoding (hk : (s.continued d index).Kept h none)
    (hlt : ∀ k, h = some k → index < k) (hindex : index < s.receiverFilters.count)
    (hadmits : s.buffers.current ≠ none → admitsData d (s.continued d index).receiverFilters
      (s.receiverFilters.count - (index + 1)) (index + 1) = true)
    (hstep : s.continueDecoding d index = some s') : s'.Inv := by
  have hsame := sameRequest_continued d s index
  have hdone := hsame.done.symm.trans hk.done
  have htrailers := hsame.trailers.symm.trans hk.trailers
  have hcurrent' := congrArg Buffers.current hsame.buffers
  cases hcurrent : s.buffers.current with
  | none =>
    rw [continueDecoding_headers hdone htrailers hk.tidy hcurrent] at hstep
    cases hstep
    exact hk.inv (hcurrent'.trans hcurrent)
  | some buf =>
    obtain ⟨t, ht, hinv⟩ := hk.dataLoop (hcurrent'.trans hcurrent) (hadmits (by simp [hcurrent]))
      (by rw [hsame.count]; omega) hlt
    rw [continueDecoding_data hdone htrailers hk.tidy hcurrent, ← hsame.recvDone, ht] at hstep
    cases hstep
    exact hinv

theorem Phase.kept (hphase : s.Phase) (hdone : s.upstreamProcessDone = false)
    (htidy : Tidy s.receiverFilters) (hstopped : (s.receiverFilters.filter index).stopped = true) :
    ∃ h a, s.Kept h a
      ∧ ∀ j, a = some j → (s.receiverFilters.filter j).headersContinued = true ∨ h = a := by
  cases hphase with
  | fresh _ _ _ _ hfree _ =>
    rw [hfree index] at hstopped
    cases hstopped
  | passed _ _ _ _ _ hfree =>
    rw [hfree index] at hstopped
    cases hstopped
  | data j buf e hrequest hreceived hcurrent hrecv htrailers hcontinued hstops =>
    refine ⟨none, some j, ⟨hdone, htidy, htrailers, ?_, ?_, hrequest, ?_⟩, ?_⟩
    · simp [hreceived]
    · simp [keptHeaders, keptData, hcurrent, hreceived, hrecv]
    · simpa using hstops
    · grind
  | headers i e hreceived hupstream hcurrent hrecv htrailers hfresh hstops =>
    refine ⟨some i, none, ⟨hdone, htidy, htrailers, ?_, ?_, ⟨hupstream, hfresh⟩, ?_⟩, nofun⟩
    · simp [hreceived]
    · simp [keptHeaders, keptData, hcurrent, hreceived, hrecv, hupstream]
    · simpa using hstops
  | both i a buf e hreceived hupstream hcurrent hrecv htrailers hfresh hai hcontinued hstops =>
    refine ⟨some i, some a, ⟨hdone, htidy, htrailers, ?_, ?_, ⟨hupstream, hfresh⟩, ?_⟩, ?_⟩
    · simp [hreceived]
    · simp [keptHeaders, keptData, hcurrent, hreceived, hrecv, hupstream]
    · simpa using hstops
    · grind

theorem not_held {s : Receiver} {d : Decisions} {frame : Frame} (htidy : Tidy s.receiverFilters)
    (hadmits : s.Admits (.receive frame d)) (hframe : frame.isHeaders = false) {j : Nat}
    (hj : (s.receiverFilters.filter j).stopped = true) :
    s.buffers.current = none ∧ ∃ bytes e, frame = .data bytes e := by
  cases frame with
  | headers => cases hframe
  | data bytes e =>
    refine ⟨?_, bytes, e, rfl⟩
    rcases hadmits.1 with hnone | hfree
    · exact hnone
    · rw [hfree j (htidy.bound j hj)] at hj
      cases hj
  | trailers =>
    rw [hadmits.1 j (htidy.bound j hj)] at hj
    cases hj

theorem inv_receive {frame : Frame} (hs : s.Inv) (hadmits : s.Admits (.receive frame d))
    (hfollows : Frame.follows s.received frame = true)
    (h : Receiver.receive d { s with received := s.received ++ [frame] } frame = some s') :
    s'.Inv := by
  obtain ⟨hdone, htidy, hphase⟩ := hs
  cases hphase with
  | fresh hreceived hupstream hcurrent htrailers hfree hfresh =>
    rw [hreceived] at hfollows
    cases frame with
    | headers headers e =>
      cases h
      grind [inv_receiveHeaders]
    | data => cases hfollows
    | trailers => cases hfollows
  | passed last hrequest hupstream hlast htrailers hfree =>
    obtain ⟨hframe, hends⟩ := follows_some hlast hfollows
    cases frame with
    | headers => cases hframe
    | data bytes e =>
      have hnone := htrailers.resolve_right (by rw [hends]; simp)
      refine Kept.receiveData (s := { s with received := s.received ++ [.data bytes e] })
        (h := none) ⟨hdone, htidy, hnone, by simp, ?_, hrequest, fun i => by simpa using hfree i⟩
        hadmits.2 h
      rw [keptData_assign, hupstream]
      simp [keptHeaders]
    | trailers trailers =>
      cases trailers with
      | none => cases h
      | some trailers =>
        exact inv_receiveTrailers
          (s := { s with received := s.received ++ [.trailers (some trailers)] }) hdone htidy
          hrequest hupstream rfl hfree hadmits.2 h
  | headers i e hreceived hupstream hcurrent hrecv htrailers hfresh hstops =>
    -- a chunk may come, trailers may not
    obtain ⟨hframe, hends⟩ := follows_some (by rw [hreceived]; rfl) hfollows
    obtain ⟨-, bytes, e', rfl⟩ := not_held htidy hadmits hframe (j := i) (by simp [hstops i])
    refine Kept.receiveData (s := { s with received := s.received ++ [.data bytes e'] })
      (h := some i) ⟨hdone, htidy, htrailers, by simp, ?_, ⟨hupstream, hfresh⟩,
        fun j => by simpa using hstops j⟩ hadmits.2 h
    change e = false at hends
    rw [keptData_assign, hupstream, hreceived, hends]
    cases e' <;> rfl
  | data j buf e hrequest hreceived hcurrent hrecv htrailers hcontinued hstops =>
    obtain ⟨hframe, -⟩ := follows_some (by rw [hreceived, List.getLast?_concat]) hfollows
    grind [not_held]
  | both i a buf e hreceived hupstream hcurrent hrecv htrailers hfresh hai hcontinued hstops =>
    obtain ⟨hframe, -⟩ := follows_some (by rw [hreceived]; rfl) hfollows
    grind [not_held]

theorem inv_step {s s' : Receiver} {a : Action} (hs : s.Inv) (hadmits : s.Admits a)
    (h : s.Step a s') : s'.Inv := by
  cases a with
  | receive frame d =>
    obtain ⟨hfollows, h⟩ := Option.ite_none_right_eq_some.mp h
    exact inv_receive hs hadmits hfollows h
  | continueDecoding index d =>
    obtain ⟨⟨hindex, hwaits⟩, h⟩ := Option.ite_none_right_eq_some.mp h
    obtain ⟨hfirst, hdata⟩ := hadmits
    rw [hs.tidy.waits index] at hwaits
    obtain ⟨headers, chunk, hk, hchunk⟩ := hs.phase.kept hs.done hs.tidy hwaits
    obtain ⟨headers', hk', hlt⟩ := hk.continued hwaits hfirst hchunk
    exact hk'.continueDecoding hlt hindex hdata h

/-- **Along runs without a loss, buffering of requests is transparent**: once a
whole request has come and no filter waits, the upstream request got it, the
body in whatever chunks. -/
theorem transparent_of_admits {count : Nat} {s : Receiver} {as : List Action}
    (hrun : Run Step (new count) as s) (hadmits : EveryStep Step Admits (new count) as)
    {headers : HeaderMap} {chunks : List (List UInt8)} {trailers : Option HeaderMap}
    (hreceived : s.received = deliver headers chunks trailers)
    (hwaits : ∀ i < s.receiverFilters.count, (s.receiverFilters.filter i).waits = false) :
    Delivers s.upstream headers chunks.flatten trailers := by
  obtain ⟨-, htidy, hphase⟩ :=
    hrun.guarded Inv (fun _ _ _ hs hP h => inv_step hs hP h) (inv_new count) hadmits
  -- whoever keeps something back waits
  have hfree : ∀ j, (s.receiverFilters.filter j).stopped = false := by grind
  cases hphase with
  | fresh hnil =>
    rw [hnil] at hreceived
    cases hreceived
  | passed last _ hupstream => exact ⟨chunks, rfl, by rw [hupstream, hreceived]⟩
  | data i _ _ _ _ _ _ _ _ hstops => exact absurd (hstops i) (by simp [hfree i])
  | headers i _ _ _ _ _ _ _ hstops => exact absurd (hstops i) (by simp [hfree i])
  | both i _ _ _ _ _ _ _ _ _ _ _ hstops => exact absurd (hstops i) (by simp [hfree i])

/-- A filter that stops headers, or data with buffering, and lets the rest
pass. -/
def stopsHeadersAt (index : Nat) : Decisions where
  headers i := if i = index then .stopIteration else .continue_

def stopsDataAt (index : Nat) : Decisions where
  data i := if i = index then .stopIterationAndBuffer else .continue_

/-- The first filter keeps the headers and the first chunk back; when it
continues the second keeps the chunk back, and continues.  The rest passes. -/
def keptInTurn : List Action :=
  [.receive (.headers ∅ false) (stopsHeadersAt 0), .receive (.data [1, 2] false) (stopsDataAt 0),
    .continueDecoding 0 (stopsDataAt 1), .continueDecoding 1 {}, .receive (.data [3] false) {},
    .receive (.trailers (some ∅)) {}]

theorem keptInTurn_transparent :
    ∃ s, Run Step (new 2) keptInTurn s ∧ s.received = deliver ∅ [[1, 2], [3]] (some ∅)
      ∧ Delivers s.upstream ∅ [1, 2, 3] (some ∅) := by
  have hrun : ∃ s, runSteps step (new 2) keptInTurn = some s
      ∧ s.received = deliver ∅ [[1, 2], [3]] (some ∅)
      ∧ ∀ i < s.receiverFilters.count, (s.receiverFilters.filter i).waits = false :=
    ⟨_, rfl, rfl, by decide⟩
  have hadmits : checkSteps step (fun s a => decide (s.Admits a)) (new 2) keptInTurn = true := by
    decide
  obtain ⟨s, hsteps, hreceived, hwaits⟩ := hrun
  exact ⟨s, run_of_runSteps hsteps, hreceived, transparent_of_admits (run_of_runSteps hsteps)
    (everyStep_of_checkSteps (fun _ _ => of_decide_eq_true) hadmits) hreceived hwaits⟩

/-- The only filter keeps two chunks back, and continues. -/
def keptTogether : List Action :=
  [.receive (.headers ∅ false) {}, .receive (.data [1] false) (stopsDataAt 0),
    .receive (.data [2] true) (stopsDataAt 0), .continueDecoding 0 {}]

/-- **The first chunk is lost.** -/
theorem keptTogether_lost :
    ∃ s, Run Step (new 1) keptTogether s ∧ s.received = deliver ∅ [[1], [2]] none
      ∧ (∀ i < s.receiverFilters.count, (s.receiverFilters.filter i).waits = false)
      ∧ s.upstream = [.headers ∅ false, .data [2] true] :=
  ⟨_, run_of_runSteps (f := step) rfl, rfl, by decide, rfl⟩

end Receiver

end Mosn.Proxy.Filters
