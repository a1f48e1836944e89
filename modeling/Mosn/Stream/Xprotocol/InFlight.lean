/-
  Mosn.Stream.Xprotocol.InFlight
  **REQUESTS IN FLIGHT ON ONE XPROTOCOL CONNECTION.**

  All responses are looked up under the empty id, so the map has room for ONE
  request that can be answered: the last one made under that id.  A request
  made before the response to an earlier one takes its place.

    • `kept_iff` — all responses arrive exactly when no two
      requests are in flight at once.
-/
import Mosn.Stream.Xprotocol.Stream

namespace Mosn.Stream.Xprotocol

open Mosn.Lib Mosn.Types Mosn.Protocol Mosn.Protocol.SofaRpc

/-! ## §1. Requests and responses. -/

/-- What happens on the pool's connection. -/
inductive ClientEvent (ρ : Type) where
  /-- `upstreamRequest.appendHeaders`; the request limit may refuse it. -/
  | request (receiver : ρ) (headers : HeaderMap) (canCreate : Bool)
  /-- A response is read. -/
  | response (count : IDGenerator) (data : List UInt8)

section Run

variable {ρ : Type} (remoteAddr : GoString)

def stepPool (p : ConnPool ρ) : ClientEvent ρ → ConnPool ρ
  | .request receiver headers canCreate =>
    (p.newStream (newStreamConnection none remoteAddr) canCreate (upstreamStreamID headers)
      receiver).2
  | .response count data => p.onData count data

/-- The pool after the events, from a pool without a connection. -/
def runPool (es : List (ClientEvent ρ)) : ConnPool ρ := es.foldl (stepPool remoteAddr) ⟨none⟩

/-- The pool's connection. -/
def ConnPool.codec (p : ConnPool ρ) : StreamConnection ρ :=
  (p.primaryClient.map ActiveClient.codec).getD (newStreamConnection none remoteAddr)

end Run

section Events

variable {ρ : Type}

/-- The receivers of the requests that were made. -/
def accepted (es : List (ClientEvent ρ)) : List ρ :=
  es.filterMap fun
    | .request receiver _ true => some receiver
    | _ => none

/-- The responses, in order. -/
def responses (es : List (ClientEvent ρ)) : List (List UInt8) :=
  es.filterMap fun
    | .response _ data => some data
    | _ => none

/-- What a connection has handed over as a whole response, and to whom. -/
def handed (conn : StreamConnection ρ) : List (ρ × List UInt8) :=
  conn.callbacks.filterMap fun
    | .receiveData receiver data true => some (receiver, data)
    | _ => none

end Events

/-! ## §2. One event. -/

section Step

variable {ρ : Type} (remoteAddr : GoString)

/-- The receiver that the next response would go to. -/
def awaited (conn : StreamConnection ρ) : List ρ :=
  ((conn.activeStream.lookup []).map StreamEntry.decoder).toList

variable {conn : StreamConnection ρ} {stream : StreamEntry ρ}

theorem awaited_none (h : conn.activeStream.lookup [] = none) : awaited conn = [] := by
  unfold awaited
  rw [h]
  rfl

theorem awaited_some
    (h : conn.activeStream.lookup [] = some stream) : awaited conn = [stream.decoder] := by
  unfold awaited
  rw [h]
  rfl

/-- A client connection; its stream under the empty id is a client stream. -/
@[local grind cases]
structure IsClient (conn : StreamConnection ρ) : Prop where
  serverCallbacks : conn.serverCallbacks = none
  stream : ∀ stream, conn.activeStream.lookup [] = some stream →
    stream.streamID = [] ∧ stream.direction = .clientStream

theorem dispatch_client (h : conn.serverCallbacks = none)
    (count : IDGenerator) (data : List UInt8) : conn.dispatch count data
      = ((conn.onReceiveHeaders [] (dispatchHeaders conn.remoteAddr)).onReceiveData [] data,
        count) := by
  unfold StreamConnection.dispatch
  rw [h]

theorem dispatch_dropped (h : IsClient conn)
    (hnone : conn.activeStream.lookup [] = none) (count : IDGenerator) (data : List UInt8) :
    (conn.dispatch count data).1 = conn := by
  have hheaders : conn.onReceiveHeaders [] (dispatchHeaders conn.remoteAddr) = conn := by
    simp only [StreamConnection.onReceiveHeaders, h.serverCallbacks, hnone]
  rw [dispatch_client h.serverCallbacks, hheaders]
  simp only [StreamConnection.onReceiveData, hnone]

theorem dispatch_handed (h : IsClient conn)
    (hsome : conn.activeStream.lookup [] = some stream) (count : IDGenerator) (data : List UInt8) :
    (conn.dispatch count data).1
      = { conn with
          activeStream := conn.activeStream.erase []
          callbacks := conn.callbacks
            ++ [.receiveHeaders stream.decoder (dispatchHeaders conn.remoteAddr) false,
              .receiveData stream.decoder data true] } := by
  obtain ⟨hid, hdir⟩ := h.stream stream hsome
  have hheaders : conn.onReceiveHeaders [] (dispatchHeaders conn.remoteAddr)
      = conn.call (.receiveHeaders stream.decoder (dispatchHeaders conn.remoteAddr) false) := by
    simp only [StreamConnection.onReceiveHeaders, h.serverCallbacks, hsome]
  rw [dispatch_client h.serverCallbacks, hheaders]
  simp only [StreamConnection.onReceiveData, StreamConnection.call, hsome, hdir, hid, ↓reduceIte,
    List.append_assoc, List.cons_append, List.nil_append]

theorem handed_dispatch (h : IsClient conn)
    (hsome : conn.activeStream.lookup [] = some stream) (count : IDGenerator) (data : List UInt8) :
    handed (conn.dispatch count data).1 = handed conn ++ [(stream.decoder, data)]
      ∧ awaited (conn.dispatch count data).1 = [] := by
  rw [dispatch_handed h hsome]
  exact ⟨List.filterMap_append, awaited_none (Finmap.lookup_erase _ _)⟩

/-- The connection after the events. -/
def connAfter (es : List (ClientEvent ρ)) : StreamConnection ρ :=
  (runPool remoteAddr es).codec remoteAddr

theorem isClient_new : IsClient (newStreamConnection (ρ := ρ) none remoteAddr) where
  serverCallbacks := rfl
  stream := fun _ h => nomatch h

variable (es : List (ClientEvent ρ))

theorem runPool_snoc (e : ClientEvent ρ) :
    runPool remoteAddr (es ++ [e]) = stepPool remoteAddr (runPool remoteAddr es) e :=
  List.foldl_append

theorem connAfter_request (receiver : ρ) (headers : HeaderMap) :
    connAfter remoteAddr (es ++ [.request receiver headers true])
      = ((connAfter remoteAddr es).newStream (upstreamStreamID headers) receiver).2 := by
  unfold connAfter
  rw [runPool_snoc]
  unfold stepPool ConnPool.newStream ConnPool.codec
  cases (runPool remoteAddr es).primaryClient <;> rfl

theorem connAfter_refused (receiver : ρ) (headers : HeaderMap) :
    connAfter remoteAddr (es ++ [.request receiver headers false])
      = connAfter remoteAddr es := by
  unfold connAfter
  rw [runPool_snoc]
  unfold stepPool ConnPool.newStream ConnPool.codec
  cases (runPool remoteAddr es).primaryClient <;> rfl

theorem connAfter_response (count : IDGenerator) (data : List UInt8) :
    connAfter remoteAddr (es ++ [.response count data])
      = ((connAfter remoteAddr es).dispatch count data).1 := by
  unfold connAfter
  rw [runPool_snoc]
  unfold ConnPool.codec
  cases hclient : (runPool remoteAddr es).primaryClient with
  | some client =>
    simp only [stepPool, ConnPool.onData, hclient]
    rfl
  | none =>
    simp only [stepPool, ConnPool.onData, hclient]
    exact (dispatch_dropped (isClient_new remoteAddr) rfl count data).symm

theorem lookup_newStream (conn : StreamConnection ρ) (streamID : GoString) (receiver : ρ) :
    (conn.newStream streamID receiver).2.activeStream.lookup []
      = if streamID = [] then some ⟨[], .clientStream, receiver⟩
        else conn.activeStream.lookup [] := by
  show (conn.activeStream.insert streamID _).lookup [] = _
  grind [GoMap.lookup_insert_ite]

theorem awaited_newStream (conn : StreamConnection ρ) (streamID : GoString) (receiver : ρ) :
    awaited (conn.newStream streamID receiver).2
      = if streamID = [] then [receiver] else awaited conn := by
  have hslot := lookup_newStream conn streamID receiver
  by_cases hid : streamID = []
  · rw [if_pos hid] at hslot ⊢
    exact awaited_some hslot
  · rw [if_neg hid] at hslot ⊢
    unfold awaited
    rw [hslot]

theorem isClient_connAfter : IsClient (connAfter remoteAddr es) := by
  induction es using List.reverseRecOn with
  | nil => exact isClient_new remoteAddr
  | append_singleton es e ih =>
    cases e with
    | request receiver headers canCreate =>
      cases canCreate with
      | false =>
        rw [connAfter_refused]
        exact ih
      | true =>
        rw [connAfter_request]
        refine ⟨ih.serverCallbacks, fun stream hstream => ?_⟩
        grind [lookup_newStream]
    | response count data =>
      rw [connAfter_response]
      cases hslot : (connAfter remoteAddr es).activeStream.lookup [] with
      | none =>
        rw [dispatch_dropped ih hslot]
        exact ih
      | some stream =>
        rw [dispatch_handed ih hslot]
        refine ⟨ih.serverCallbacks, fun stream' hstream' => ?_⟩
        rw [Finmap.lookup_erase] at hstream'
        cases hstream'

/-- **What one event changes**: whom a response would go to, and what has been
handed over. -/
inductive Change (handed₀ : List (ρ × List UInt8)) (awaited₀ : List ρ) :
    ClientEvent ρ → List (ρ × List UInt8) → List ρ → Prop where
  | request {receiver : ρ} {headers : HeaderMap} :
      upstreamStreamID headers = [] →
      Change handed₀ awaited₀ (.request receiver headers true) handed₀ [receiver]
  | elsewhere {receiver : ρ} {headers : HeaderMap} :
      upstreamStreamID headers ≠ [] →
      Change handed₀ awaited₀ (.request receiver headers true) handed₀ awaited₀
  | refused {receiver : ρ} {headers : HeaderMap} :
      Change handed₀ awaited₀ (.request receiver headers false) handed₀ awaited₀
  | dropped {count : IDGenerator} {data : List UInt8} :
      awaited₀ = [] → Change handed₀ awaited₀ (.response count data) handed₀ awaited₀
  | handed {count : IDGenerator} {data : List UInt8} {receiver : ρ} :
      awaited₀ = [receiver] →
      Change handed₀ awaited₀ (.response count data) (handed₀ ++ [(receiver, data)]) []

theorem change (e : ClientEvent ρ) :
    Change (handed (connAfter remoteAddr es)) (awaited (connAfter remoteAddr es)) e
      (handed (connAfter remoteAddr (es ++ [e]))) (awaited (connAfter remoteAddr (es ++ [e]))) := by
  have hclient := isClient_connAfter remoteAddr es
  cases e with
  | request receiver headers canCreate =>
    cases canCreate with
    | false =>
      rw [connAfter_refused]
      exact .refused
    | true =>
      rw [connAfter_request]
      rw [awaited_newStream]
      split
      next hid => exact .request hid
      next hid => exact .elsewhere hid
  | response count data =>
    rw [connAfter_response]
    cases hslot : (connAfter remoteAddr es).activeStream.lookup [] with
    | none =>
      rw [dispatch_dropped hclient hslot]
      exact .dropped (awaited_none hslot)
    | some stream =>
      obtain ⟨hhanded, hnone⟩ := handed_dispatch hclient hslot count data
      rw [hhanded, hnone]
      exact .handed (awaited_some hslot)

end Step

/-! ## §3. Whole runs. -/

section Runs

variable {ρ : Type} (remoteAddr : GoString)

theorem accepted_snoc (es : List (ClientEvent ρ)) (e : ClientEvent ρ) :
    accepted (es ++ [e]) = accepted es ++ accepted [e] := List.filterMap_append

theorem responses_snoc (es : List (ClientEvent ρ)) (e : ClientEvent ρ) :
    responses (es ++ [e]) = responses es ++ responses [e] := List.filterMap_append

section Counts

variable (receiver : ρ) (headers : HeaderMap) (count : IDGenerator) (data : List UInt8)

@[simp] theorem length_accepted_request :
    (accepted [.request receiver headers true]).length = 1 := rfl

@[simp] theorem length_accepted_refused :
    (accepted [.request receiver headers false]).length = 0 := rfl

@[simp] theorem length_accepted_response :
    (accepted [(.response count data : ClientEvent ρ)]).length = 0 := rfl

@[simp] theorem length_responses_request (canCreate : Bool) :
    (responses [.request receiver headers canCreate]).length = 0 := rfl

@[simp] theorem length_responses_response :
    (responses [(.response count data : ClientEvent ρ)]).length = 1 := rfl

end Counts

variable (es : List (ClientEvent ρ))

/-- **No receiver is mixed up**: those who got a response, and the one who
would get the next, are receivers of requests, in the order of the requests. -/
theorem handed_sublist :
    ((handed (connAfter remoteAddr es)).map Prod.fst ++ awaited (connAfter remoteAddr es)).Sublist
      (accepted es) := by
  induction es using List.reverseRecOn with
  | nil => exact List.Sublist.refl _
  | append_singleton es e ih =>
    rw [accepted_snoc]
    have hchange := change remoteAddr es e
    generalize handed (connAfter remoteAddr (es ++ [e])) = handed' at hchange ⊢
    generalize awaited (connAfter remoteAddr (es ++ [e])) = awaited' at hchange ⊢
    cases hchange with
    | request hid =>
      exact ((List.sublist_append_left _ _).trans ih).append (List.Sublist.refl _)
    | elsewhere | refused | dropped => exact ih.trans (List.sublist_append_left _ _)
    | handed hsome => grind

theorem handed_responses :
    ((handed (connAfter remoteAddr es)).map Prod.snd).Sublist (responses es) := by
  induction es using List.reverseRecOn with
  | nil => exact List.Sublist.refl _
  | append_singleton es e ih =>
    rw [responses_snoc]
    have hchange := change remoteAddr es e
    generalize handed (connAfter remoteAddr (es ++ [e])) = handed' at hchange ⊢
    generalize awaited (connAfter remoteAddr (es ++ [e])) = awaited' at hchange
    cases hchange with
    | request | elsewhere | refused | dropped => exact ih.trans (List.sublist_append_left _ _)
    | handed hsome =>
      rw [List.map_append]
      exact ih.append (List.Sublist.refl _)

/-- The requests that can no longer be answered. -/
def lost (es : List (ClientEvent ρ)) : Nat :=
  (accepted es).length
    - ((handed (connAfter remoteAddr es)).length + (awaited (connAfter remoteAddr es)).length)

theorem length_accepted :
    (handed (connAfter remoteAddr es)).length + (awaited (connAfter remoteAddr es)).length
      + lost remoteAddr es = (accepted es).length := by
  have hle := (handed_sublist remoteAddr es).length_le
  rw [List.length_append, List.length_map] at hle
  unfold lost
  omega

/-- The requests that lose their place with an event: the one that was
awaited, or the new one itself under another id. -/
def displaced (es : List (ClientEvent ρ)) : ClientEvent ρ → Nat
  | .request _ headers true =>
    if upstreamStreamID headers = [] then (awaited (connAfter remoteAddr es)).length else 1
  | _ => 0

theorem lost_snoc (e : ClientEvent ρ) :
    lost remoteAddr (es ++ [e]) = lost remoteAddr es + displaced remoteAddr es e := by
  have hbefore := length_accepted remoteAddr es
  have hafter := length_accepted remoteAddr (es ++ [e])
  have hchange := change remoteAddr es e
  rw [accepted_snoc, List.length_append] at hafter
  generalize handed (connAfter remoteAddr (es ++ [e])) = handed' at hchange hafter
  generalize awaited (connAfter remoteAddr (es ++ [e])) = awaited' at hchange hafter
  cases hchange with
  | request hid =>
    simp only [length_accepted_request, List.length_singleton] at hafter
    simp only [displaced, hid, ↓reduceIte]
    omega
  | elsewhere hid =>
    simp only [length_accepted_request] at hafter
    simp only [displaced, hid, ↓reduceIte]
    omega
  | refused =>
    simp only [length_accepted_refused] at hafter
    simp only [displaced]
    omega
  | dropped hawaited =>
    simp only [length_accepted_response] at hafter
    simp only [displaced]
    omega
  | handed hawaited =>
    rw [hawaited] at hbefore
    simp only [length_accepted_response, List.length_append, List.length_singleton,
      List.length_nil] at hbefore hafter
    simp only [displaced]
    omega

/-- **A request that lost its place stays lost.** -/
theorem lost_mono (before after : List (ClientEvent ρ)) :
    lost remoteAddr before ≤ lost remoteAddr (before ++ after) := by
  induction after using List.reverseRecOn with
  | nil => rw [List.append_nil]
  | append_singleton after e ih =>
    rw [← List.append_assoc, lost_snoc]
    omega

/-! ## §4. When all responses arrive. -/

/-- Every response answers a request made before it, and every request is
answered. -/
@[local grind cases]
structure Answered (es : List (ClientEvent ρ)) : Prop where
  each : ∀ before after, es = before ++ after →
    (responses before).length ≤ (accepted before).length
  all : (responses es).length = (accepted es).length

/-- **Exchanges are kept apart**: every response is handed over, to the
receiver of a request, and to no receiver twice. -/
@[local grind cases]
structure Kept (es : List (ClientEvent ρ)) : Prop where
  delivered : (handed (connAfter remoteAddr es)).map Prod.snd = responses es
  receivers : ∀ h ∈ handed (connAfter remoteAddr es), h.1 ∈ accepted es
  once : ((handed (connAfter remoteAddr es)).map Prod.fst).Nodup

/-- No two requests are in flight at once, and all have the empty id. -/
def OneAtATime (es : List (ClientEvent ρ)) : Prop :=
  ∀ before after receiver headers, es = before ++ .request receiver headers true :: after →
    upstreamStreamID headers = [] ∧ (accepted before).length = (responses before).length

theorem OneAtATime.all_handed {es : List (ClientEvent ρ)} (h : OneAtATime es)
    (heach : ∀ before after, es = before ++ after →
      (responses before).length ≤ (accepted before).length) :
    lost remoteAddr es = 0
      ∧ (handed (connAfter remoteAddr es)).length = (responses es).length := by
  induction es using List.reverseRecOn with
  | nil => exact ⟨rfl, rfl⟩
  | append_singleton es e ih =>
    obtain ⟨hlost, hhanded⟩ := ih
      (fun before after receiver headers hes => h before (after ++ [e]) receiver headers
        (by rw [hes, List.append_assoc]; rfl))
      (fun before after hes => heach before (after ++ [e]) (by rw [hes, List.append_assoc]))
    have hbefore := length_accepted remoteAddr es
    have hlast := heach (es ++ [e]) [] (List.append_nil _).symm
    have hchange := change remoteAddr es e
    rw [accepted_snoc, responses_snoc, List.length_append, List.length_append] at hlast
    rw [lost_snoc, responses_snoc, List.length_append]
    generalize handed (connAfter remoteAddr (es ++ [e])) = handed' at hchange ⊢
    generalize awaited (connAfter remoteAddr (es ++ [e])) = awaited' at hchange
    cases hchange with
    | @request receiver headers hid =>
      -- the place was free
      have hfree := (h es [] receiver headers rfl).2
      simp only [displaced, hid, ↓reduceIte, length_responses_request]
      omega
    | @elsewhere receiver headers hid => exact absurd (h es [] receiver headers rfl).1 hid
    | refused =>
      simp only [displaced, length_responses_request]
      omega
    | dropped hawaited =>
      -- a request is in flight, so one is awaited
      rw [hawaited, List.length_nil] at hbefore
      simp only [length_responses_response, length_accepted_response] at hlast
      omega
    | handed hawaited =>
      simp only [displaced, List.length_append, List.length_singleton,
        length_responses_response]
      omega

theorem oneAtATime_of_lost {es : List (ClientEvent ρ)} (hlost : lost remoteAddr es = 0)
    (heach : ∀ before after, es = before ++ after →
      (responses before).length ≤ (accepted before).length) : OneAtATime es := by
  intro before after receiver headers hes
  have hmono := lost_mono remoteAddr (before ++ [.request receiver headers true]) after
  rw [List.append_assoc, List.singleton_append, ← hes, hlost, lost_snoc] at hmono
  have hcount := length_accepted remoteAddr before
  have hle := (handed_responses remoteAddr before).length_le
  have heach := heach before _ hes
  rw [List.length_map] at hle
  simp only [displaced] at hmono
  split at hmono
  next hid => exact ⟨hid, by omega⟩
  next => omega

/-- **When exchanges on an xprotocol connection do not mix.**  For any requests
through the pool and any order of their responses: every response reaches the
receiver of a request, none twice, exactly when no request is made while
another one is in flight and the headers name no stream. -/
theorem kept_iff (es : List (ClientEvent ρ)) (hanswered : Answered es)
    (hdistinct : (accepted es).Nodup) : Kept remoteAddr es ↔ OneAtATime es := by
  have hsub := handed_sublist remoteAddr es
  have hcount := length_accepted remoteAddr es
  have hall := hanswered.all
  constructor
  · grind [List.length, List.length_map, oneAtATime_of_lost]
  · intro hone
    obtain ⟨-, hhanded⟩ := hone.all_handed remoteAddr hanswered.each
    have hfst := (List.sublist_append_left _ _).trans hsub
    refine ⟨(handed_responses remoteAddr es).eq_of_length ?_, ?_, hfst.nodup hdistinct⟩
    · rw [List.length_map]
      exact hhanded
    · intro p hp
      exact hfst.subset (List.mem_map_of_mem hp)

end Runs

/-- A request as an xprotocol client's bytes make it. -/
def proxiedRequest (receiver : Nat) : ClientEvent Nat :=
  .request receiver (dispatchHeaders (str "10.0.0.1:80")) true

theorem kept_one_after_the_other : Kept (str "10.0.0.2:80")
      [proxiedRequest 1, .response ⟨0⟩ [65], proxiedRequest 2, .response ⟨0⟩ [66]] := by
  refine (kept_iff _ _ ⟨?_, rfl⟩ (by decide)).mpr ?_
  · intro before after hes
    rcases before with _ | ⟨_, _ | ⟨_, _ | ⟨_, _ | ⟨_, _ | ⟨_, rest⟩⟩⟩⟩⟩ <;> cases hes <;> decide
  · intro before after receiver headers hes
    unfold proxiedRequest at hes
    rcases before with _ | ⟨_, _ | ⟨_, _ | ⟨_, _ | ⟨_, rest⟩⟩⟩⟩
    · cases hes
      exact ⟨upstreamStreamID_dispatchHeaders _, rfl⟩
    · cases hes
    · cases hes
      exact ⟨upstreamStreamID_dispatchHeaders _, rfl⟩
    · cases hes
    · exact absurd (congrArg List.length hes) (by simp)

/-- **Two requests in flight**: the first response goes to the second request,
the second response to nobody. -/
theorem two_in_flight_mix : handed (connAfter (str "10.0.0.2:80")
        [proxiedRequest 1, proxiedRequest 2, .response ⟨0⟩ [65], .response ⟨0⟩ [66]])
      = [(2, [65])]
    ∧ ¬ Kept (str "10.0.0.2:80")
      [proxiedRequest 1, proxiedRequest 2, .response ⟨0⟩ [65], .response ⟨0⟩ [66]] := by
  constructor
  · decide
  · intro hkept
    exact absurd hkept.delivered (by decide)

end Mosn.Stream.Xprotocol
