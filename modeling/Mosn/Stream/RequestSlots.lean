/-
  Mosn.Stream.RequestSlots
  **REQUEST SLOTS ARE GIVEN BACK ONCE.**

  The three places that know a request agree after every call: the cluster
  counts exactly the requests in the lists of its codec clients, a request is
  in the list of its client until it is destroyed, and until then its
  `activeRequest` listens to its stream, so that a reset destroys it.

    • `slots_exact` — so the counter is right after every run, and a
      request that has completed or was reset was destroyed once,
    • `localReset_iff`, `http_listeners` — why that is not so for the two HTTP
      protocols: their streams forget the wrong listener.
-/
import Mosn.Lib.Table
import Mosn.Stream.CodecClient

namespace Mosn.Stream.Codec

open Mosn.Lib

/-! ## §1. The invariant. -/

namespace Cluster

/-- The total length of the lists of active requests. -/
def active (s : Cluster) : Nat := (s.clients.map fun client => client.activeRequests.length).sum

/-- Request `r` was destroyed. -/
def Destroyed (s : Cluster) (r : Nat) : Prop :=
  ∃ request, s.made[r]? = some request ∧ request.deleted = true

/-- **The invariant.** -/
structure Exact (s : Cluster) : Prop where
  current : s.requests.current = Int64.ofNat s.active
  /-- A request that was not deleted is listed, and listens. -/
  listed : ∀ (r : Nat) (request : ActiveRequest), s.made[r]? = some request →
    request.deleted = false → Listener.activeRequest ∈ request.streamCbs
      ∧ ∃ client, s.clients[request.codecClient]? = some client ∧ r ∈ client.activeRequests
  /-- A listed request was not deleted. -/
  live : ∀ (c : Nat) (client : CodecClient) (r : Nat), s.clients[c]? = some client →
    r ∈ client.activeRequests →
    ∃ request, s.made[r]? = some request ∧ request.codecClient = c ∧ request.deleted = false
  nodup : ∀ (c : Nat) (client : CodecClient), s.clients[c]? = some client →
    client.activeRequests.Nodup
  destroyed : ∀ (r : Nat) (request : ActiveRequest), s.made[r]? = some request →
    request.destroyed = if request.deleted then 1 else 0
  /-- The pools use clients that there are. -/
  pools : ∀ pool c, s.activeClient pool = some c → c < s.clients.length

theorem new_exact (max : UInt64) : (Cluster.new max).Exact where
  current := rfl
  listed := nofun
  live := nofun
  nodup := nofun
  destroyed := nofun
  pools := nofun

/-! ## §2. What the calls are made of. -/

section Parts

variable {s : Cluster}

theorem getElem?_modifyRequest (s : Cluster) (r r' : Nat) (f : ActiveRequest → ActiveRequest) :
    (s.modifyRequest r f).made[r']?
      = if r = r' then (s.made[r']?).map f else s.made[r']? :=
  getElem?_modify_ite s.made r r' f

theorem getElem?_modifyClient (s : Cluster) (c c' : Nat) (f : CodecClient → CodecClient) :
    (s.modifyClient c f).clients[c']?
      = if c = c' then (s.clients[c']?).map f else s.clients[c']? :=
  getElem?_modify_ite s.clients c c' f

/-- `new` is `request` but for its listeners, and the `activeRequest` listens on
while the request lives. -/
structure Keeps (request new : ActiveRequest) : Prop where
  client : new.codecClient = request.codecClient
  deleted : new.deleted = request.deleted
  destroyed : new.destroyed = request.destroyed
  listens : request.deleted = false → Listener.activeRequest ∈ request.streamCbs →
    Listener.activeRequest ∈ new.streamCbs

variable {r' r c c' : Nat} {client' : CodecClient}

theorem modifyRequest_exact (h : s.Exact) {f : ActiveRequest → ActiveRequest}
    (hf : ∀ request, s.made[r]? = some request → Keeps request (f request)) :
    (s.modifyRequest r f).Exact := by
  have hkeeps : ∀ (i : Nat) (old : ActiveRequest), s.made[i]? = some old →
      Keeps old (if r = i then f old else old) := by
    intro i old hold
    split
    next heq =>
      subst heq
      exact hf old hold
    next => exact ⟨rfl, rfl, rfl, fun _ hmem => hmem⟩
  refine ⟨h.current, ?_, ?_, h.nodup, ?_, h.pools⟩
  · intro i request hrequest hlive
    obtain ⟨old, hold, rfl⟩ := getElem?_modified hrequest
    have hk := hkeeps i old hold
    rw [hk.deleted] at hlive
    obtain ⟨hlistens, hlisted⟩ := h.listed i old hold hlive
    rw [hk.client]
    exact ⟨hk.listens hlive hlistens, hlisted⟩
  · intro c client i hc hi
    obtain ⟨old, hold, hclient, hlive⟩ := h.live c client i hc hi
    have hk := hkeeps i old hold
    exact ⟨_, getElem?_modify_of hold r f, hk.client.trans hclient, hk.deleted.trans hlive⟩
  · intro i request hrequest
    obtain ⟨old, hold, rfl⟩ := getElem?_modified hrequest
    have hk := hkeeps i old hold
    rw [hk.destroyed, hk.deleted]
    exact h.destroyed i old hold

theorem Destroyed.modifyRequest (h : s.Destroyed r') (r : Nat) {f : ActiveRequest → ActiveRequest}
    (hf : ∀ request, request.deleted = true → (f request).deleted = true) :
    (s.modifyRequest r f).Destroyed r' := by
  obtain ⟨request, hrequest, hdeleted⟩ := h
  refine ⟨_, getElem?_modify_of hrequest r f, ?_⟩
  split
  · exact hf request hdeleted
  · exact hdeleted

theorem setStreamCbs_exact (h : s.Exact) (r : Nat) {f : List Listener → List Listener}
    (hlistens : ¬ s.Destroyed r → ∀ streamCbs, Listener.activeRequest ∈ streamCbs →
      Listener.activeRequest ∈ f streamCbs) :
    (s.setStreamCbs r f).Exact := by
  refine modifyRequest_exact h fun request hrequest =>
    ⟨rfl, rfl, rfl, fun hlive hmem => hlistens ?_ _ hmem⟩
  rintro ⟨request', hrequest', hdeleted⟩
  cases hrequest.symm.trans hrequest'
  cases hlive.symm.trans hdeleted

theorem Exact.pools_modify (h : s.Exact) (c : Nat) (f : CodecClient → CodecClient) (pool c' : Nat)
    (hpool : s.activeClient pool = some c') : c' < (s.clients.modify c f).length := by
  rw [List.length_modify]
  exact h.pools pool c' hpool

theorem modifyClient_exact (h : s.Exact) (c : Nat) {f : CodecClient → CodecClient}
    (hf : ∀ client, (f client).activeRequests = client.activeRequests) :
    (s.modifyClient c f).Exact := by
  have hlook : ∀ (c' : Nat) (client : CodecClient),
      (s.modifyClient c f).clients[c']? = some client →
      ∃ old, s.clients[c']? = some old ∧ client.activeRequests = old.activeRequests := by
    intro c' client hclient
    obtain ⟨old, hold, rfl⟩ := getElem?_modified hclient
    refine ⟨old, hold, ?_⟩
    split
    · exact hf old
    · rfl
  -- the sum changes by the one client, whose list stays
  have hactive : (s.modifyClient c f).active = s.active := by
    show ((s.clients.modify c f).map fun client => client.activeRequests.length).sum = s.active
    unfold active
    cases hc : s.clients[c]? with
    | none => rw [List.modify_eq_self (List.getElem?_eq_none_iff.mp hc)]
    | some client =>
      have hsum := sum_map_modify (fun client => client.activeRequests.length) f hc
      rw [hf client] at hsum
      exact Nat.add_right_cancel hsum
  refine ⟨?_, ?_, ?_, ?_, h.destroyed, h.pools_modify c f⟩
  · rw [hactive]
    exact h.current
  · intro r request hr hlive
    obtain ⟨hlistens, client, hclient, hmem⟩ := h.listed r request hr hlive
    refine ⟨hlistens, _, getElem?_modify_of hclient c f, ?_⟩
    split
    · rw [hf]
      exact hmem
    · exact hmem
  · intro c' client r hc' hr
    obtain ⟨old, hold, hlist⟩ := hlook c' client hc'
    rw [hlist] at hr
    exact h.live c' old r hold hr
  · intro c' client hc'
    obtain ⟨old, hold, hlist⟩ := hlook c' client hc'
    rw [hlist]
    exact h.nodup c' old hold

theorem setActiveClient_exact (h : s.Exact) (pool : Nat) {client : Option Nat}
    (hclient : ∀ c, client = some c → c < s.clients.length) :
    (s.setActiveClient pool client).Exact := by
  refine ⟨h.current, h.listed, h.live, h.nodup, h.destroyed, ?_⟩
  intro pool' c hpool'
  by_cases heq : pool' = pool
  · subst heq
    simp only [setActiveClient, Function.update_self] at hpool'
    exact hclient c hpool'
  · simp only [setActiveClient, Function.update_of_ne heq] at hpool'
    exact h.pools pool' c hpool'

/-- What `deleteRequest` makes of the request. -/
def destroy (request : ActiveRequest) : ActiveRequest :=
  { request with deleted := true, destroyed := request.destroyed + 1 }

/-- What it makes of the client. -/
def forget (r : Nat) (client : CodecClient) : CodecClient :=
  { client with activeRequests := client.activeRequests.erase r }

/-- **A live request is destroyed**: its slot is given back and it leaves the
list of its client. -/
theorem deleteRequest_live {request : ActiveRequest} (hr : s.made[r]? = some request)
    (hlive : request.deleted = false) : s.deleteRequest r
      = { s with
          requests := s.requests.decrease
          clients := s.clients.modify request.codecClient (forget r)
          made := s.made.modify r destroy } := by
  unfold deleteRequest
  rw [hr]
  simp only [hlive]
  rfl

theorem deleteRequest_same {request : ActiveRequest} (hr : s.made[r]? = some request)
    (hdeleted : request.deleted = true) : s.deleteRequest r = s := by
  unfold deleteRequest
  rw [hr]
  exact if_pos hdeleted

theorem deleteRequest_cases (s : Cluster) (r : Nat) : s.deleteRequest r = s
      ∨ ∃ request : ActiveRequest, s.made[r]? = some request ∧ request.deleted = false := by
  cases hr : s.made[r]? with
  | none =>
    unfold deleteRequest
    rw [hr]
    exact Or.inl rfl
  | some request =>
    cases hlive : request.deleted with
    | true => exact Or.inl (deleteRequest_same hr hlive)
    | false => exact Or.inr ⟨request, rfl, hlive⟩

theorem active_forget {client : CodecClient} (hc : s.clients[c]? = some client)
    (hr : r ∈ client.activeRequests) : (s.modifyClient c (forget r)).active + 1 = s.active := by
  have hsum := sum_map_modify (fun client => client.activeRequests.length) (forget r) hc
  have hlength : (forget r client).activeRequests.length = client.activeRequests.length - 1 :=
    List.length_erase_of_mem hr
  have hpos := List.length_pos_of_mem hr
  show ((s.clients.modify c _).map fun client => client.activeRequests.length).sum + 1 = s.active
  unfold active
  omega

theorem lookup_forget (h : s.Exact)
    (hc' : (s.modifyClient c (forget r)).clients[c']? = some client') :
    client'.activeRequests.Nodup ∧ ∃ old, s.clients[c']? = some old
      ∧ ∀ r' ∈ client'.activeRequests, r' ∈ old.activeRequests ∧ (c = c' → r ≠ r') := by
  obtain ⟨old, hold, rfl⟩ := getElem?_modified hc'
  have hnodup := h.nodup c' old hold
  split
  next =>
    refine ⟨hnodup.erase r, old, hold, fun r' hr' => ?_⟩
    obtain ⟨hne, hmem⟩ := hnodup.mem_erase_iff.mp hr'
    exact ⟨hmem, fun _ => hne.symm⟩
  next hne => exact ⟨hnodup, old, hold, fun r' hr' => ⟨hr', fun heq => absurd heq hne⟩⟩

theorem deleteRequest_exact (h : s.Exact) (r : Nat) : (s.deleteRequest r).Exact := by
  rcases s.deleteRequest_cases r with hsame | ⟨request, hr, hlive⟩
  · rw [hsame]
    exact h
  · obtain ⟨-, client, hclient, hmem⟩ := h.listed r request hr hlive
    rw [deleteRequest_live hr hlive]
    refine ⟨?_, ?_, ?_, fun c' client' hc' => (lookup_forget h hc').1, ?_,
      h.pools_modify request.codecClient (forget r)⟩
    · show s.requests.current - 1 = Int64.ofNat (s.modifyClient _ _).active
      rw [h.current, ← active_forget hclient hmem, Int64.ofNat_add]
      exact Int64.add_sub_cancel _ _
    · intro i request' hrequest' hlive'
      obtain ⟨old, hold, rfl⟩ := getElem?_modified hrequest'
      have hne : r ≠ i := by
        rintro rfl
        rw [if_pos rfl] at hlive'
        cases hlive'
      rw [if_neg hne] at hlive' ⊢
      obtain ⟨hlistens, client', hclient', hmem'⟩ := h.listed i old hold hlive'
      refine ⟨hlistens, _, getElem?_modify_of hclient' _ _, ?_⟩
      split
      · exact (List.mem_erase_of_ne hne.symm).mpr hmem'
      · exact hmem'
    · intro c' client' r' hc' hr'
      obtain ⟨-, old, hold, hmem'⟩ := lookup_forget h hc'
      obtain ⟨hr', hne⟩ := hmem' r' hr'
      obtain ⟨request', hrequest', hof, hlive'⟩ := h.live c' old r' hold hr'
      -- the destroyed request was in no other list
      have hother : r ≠ r' := by
        rintro rfl
        cases hr.symm.trans hrequest'
        exact hne hof rfl
      refine ⟨_, getElem?_modify_of hrequest' r destroy, ?_⟩
      rw [if_neg hother]
      exact ⟨hof, hlive'⟩
    · intro i request' hrequest'
      obtain ⟨old, hold, rfl⟩ := getElem?_modified hrequest'
      by_cases heq : r = i
      · subst heq
        cases hr.symm.trans hold
        have hnever := h.destroyed r request hr
        rw [hlive] at hnever
        rw [if_pos rfl]
        exact congrArg (· + 1) hnever
      · rw [if_neg heq]
        exact h.destroyed i old hold

theorem deleteRequest_destroys (hr : r < s.made.length) : (s.deleteRequest r).Destroyed r := by
  have hget : s.made[r]? = some (s.made[r]) := List.getElem?_eq_getElem hr
  cases hlive : (s.made[r]).deleted with
  | true =>
    rw [deleteRequest_same hget hlive]
    exact ⟨_, hget, hlive⟩
  | false =>
    rw [deleteRequest_live hget hlive]
    refine ⟨_, getElem?_modify_of hget r destroy, ?_⟩
    rw [if_pos rfl]
    rfl

theorem Destroyed.deleteRequest (h : s.Destroyed r') (r : Nat) :
    (s.deleteRequest r).Destroyed r' := by
  rcases s.deleteRequest_cases r with hsame | ⟨request, hr, hlive⟩
  · rw [hsame]
    exact h
  · rw [deleteRequest_live hr hlive]
    exact h.modifyRequest r fun _ _ => rfl

end Parts

/-! ## §3. What a call can do. -/

/-- What a call can do to the cluster. -/
structure Follows (s s' : Cluster) : Prop where
  exact : s.Exact → s'.Exact
  destroyed : ∀ r, s.Destroyed r → s'.Destroyed r
  made : s.made.length ≤ s'.made.length
  clients : s.clients.length ≤ s'.clients.length

section Calls

variable {s s' s'' : Cluster}

theorem Follows.refl (s : Cluster) : Follows s s := ⟨id, fun _ => id, Nat.le_refl _, Nat.le_refl _⟩

theorem Follows.trans (h : Follows s s') (h' : Follows s' s'') : Follows s s'' :=
  ⟨h'.exact ∘ h.exact, fun r => h'.destroyed r ∘ h.destroyed r, Nat.le_trans h.made h'.made,
    Nat.le_trans h.clients h'.clients⟩

theorem foldl_follows {α : Type} {f : Cluster → α → Cluster} (hf : ∀ s x, Follows s (f s x))
    (l : List α) : ∀ s, Follows s (l.foldl f s) := by
  induction l with
  | nil => exact Follows.refl
  | cons x l ih => exact fun s => (hf s x).trans (ih (f s x))

theorem deleteRequest_follows (s : Cluster) (r : Nat) : Follows s (s.deleteRequest r) := by
  refine ⟨fun h => deleteRequest_exact h r, fun r' h => h.deleteRequest r, ?_, ?_⟩
  all_goals
    unfold deleteRequest
    split
    · exact Nat.le_refl _
    · split
      · exact Nat.le_refl _
      · simp only [modifyRequest, modifyClient, List.length_modify, Nat.le_refl]

theorem modifyClient_follows (s : Cluster) (c : Nat) {f : CodecClient → CodecClient}
    (hf : ∀ client, (f client).activeRequests = client.activeRequests) :
    Follows s (s.modifyClient c f) :=
  ⟨fun h => modifyClient_exact h c hf, fun _ h => h, Nat.le_refl _,
    Nat.le_of_eq (List.length_modify _ _ _).symm⟩

theorem setStreamCbs_follows (s : Cluster) (r : Nat) {f : List Listener → List Listener}
    (hlistens : ¬ s.Destroyed r → ∀ streamCbs, Listener.activeRequest ∈ streamCbs →
      Listener.activeRequest ∈ f streamCbs) :
    Follows s (s.setStreamCbs r f) :=
  ⟨fun h => setStreamCbs_exact h r hlistens, fun _ h => h.modifyRequest r fun _ hd => hd,
    Nat.le_of_eq (List.length_modify _ _ _).symm, Nat.le_refl _⟩

theorem clearActiveClient_follows (s : Cluster) (pool : Nat) :
    Follows s (s.setActiveClient pool none) :=
  ⟨fun h => setActiveClient_exact h pool fun _ hc => (by cases hc), fun _ h => h, Nat.le_refl _,
    Nat.le_refl _⟩

theorem onResetStream_follows (r : Nat) (s : Cluster) (cb : Listener) :
    Follows s (onResetStream r s cb) := by
  cases cb with
  | activeRequest => exact s.deleteRequest_follows r
  | upstreamRequest =>
    exact ⟨fun h => modifyRequest_exact h fun _ _ => ⟨rfl, rfl, rfl, fun _ hmem => hmem⟩,
      fun _ h => h.modifyRequest r fun _ hd => hd, Nat.le_of_eq (List.length_modify _ _ _).symm,
      Nat.le_refl _⟩
  | other n => exact Follows.refl s

theorem resetStream_follows (s : Cluster) (r : Nat) : Follows s (s.resetStream r) :=
  foldl_follows (onResetStream_follows r) _ s

variable {r c c' : Nat} {cb : Listener} {event : ConnectionEvent} {client client' : CodecClient}

/-- **A reset destroys the request**: until it is destroyed its `activeRequest`
is told. -/
theorem resetStream_destroys (h : s.Exact) (hr : r < s.made.length) :
    (s.resetStream r).Destroyed r := by
  have hget : s.made[r]? = some (s.made[r]) := List.getElem?_eq_getElem hr
  cases hlive : (s.made[r]).deleted with
  | true => exact (s.resetStream_follows r).destroyed r ⟨_, hget, hlive⟩
  | false =>
    obtain ⟨hmem, -⟩ := h.listed r _ hget hlive
    obtain ⟨before, after, hcbs⟩ := List.append_of_mem hmem
    have hstream : s.streamCbs r = before ++ Listener.activeRequest :: after := by
      unfold streamCbs
      rw [hget]
      exact hcbs
    unfold resetStream
    rw [hstream, List.foldl_append, List.foldl_cons]
    have hbefore := foldl_follows (onResetStream_follows r) before s
    have hafter := foldl_follows (onResetStream_follows r) after
    exact (hafter _).destroyed r (deleteRequest_destroys (Nat.lt_of_lt_of_le hr hbefore.made))

variable (rpc : RpcProtocol)

/-- The comparison with the argument keeps the `activeRequest` when another
listener goes. -/
theorem activeRequest_mem_remove (hcb : cb ≠ Listener.activeRequest) {streamCbs : List Listener}
    (hmem : Listener.activeRequest ∈ streamCbs) :
    Listener.activeRequest ∈ removeEventListener rpc.protocol streamCbs cb := by
  have herase : Listener.activeRequest ∈ streamCbs.erase cb :=
    (List.mem_erase_of_ne (Ne.symm hcb)).mpr hmem
  cases rpc with
  | sofaRpc | xprotocol =>
    show _ ∈ cutFirst _ _
    rw [cutFirst_eq]
    exact herase

theorem removeEventListener_follows (s : Cluster) (r : Nat)
    (hcb : cb ≠ Listener.activeRequest) : Follows s (s.setStreamCbs r fun streamCbs =>
      removeEventListener rpc.protocol streamCbs cb) :=
  s.setStreamCbs_follows r fun _ _ hmem => activeRequest_mem_remove rpc hcb hmem

theorem upstreamResetStream_follows (s : Cluster) (r : Nat) :
    Follows s (s.upstreamResetStream rpc.protocol r) :=
  (s.removeEventListener_follows rpc r Listener.noConfusion).trans (resetStream_follows _ r)

theorem upstreamResetStream_destroys (h : s.Exact)
    (hr : r < s.made.length) : (s.upstreamResetStream rpc.protocol r).Destroyed r := by
  have hfirst := s.removeEventListener_follows rpc r
    (Listener.noConfusion : Listener.upstreamRequest ≠ Listener.activeRequest)
  exact resetStream_destroys (hfirst.exact h) (Nat.lt_of_lt_of_le hr hfirst.made)

theorem responseDecodeComplete_follows (protocol : Protocol) (s : Cluster) (r : Nat) :
    Follows s (s.responseDecodeComplete protocol r) := by
  rcases Nat.lt_or_ge r s.made.length with hr | hr
  · exact (s.deleteRequest_follows r).trans (setStreamCbs_follows _ r fun hlive =>
      absurd (deleteRequest_destroys hr) hlive)
  · have hsame : s.responseDecodeComplete protocol r = s := by
      unfold responseDecodeComplete deleteRequest
      rw [List.getElem?_eq_none hr]
      unfold setStreamCbs modifyRequest
      dsimp only
      rw [List.modify_eq_self hr]
    rw [hsame]
    exact Follows.refl s

theorem responseDecodeComplete_destroys (protocol : Protocol)
    (hr : r < s.made.length) : (s.responseDecodeComplete protocol r).Destroyed r :=
  (deleteRequest_destroys hr).modifyRequest r fun _ hd => hd

/-! ## §4. Events, and new requests. -/

theorem codecOnEvent_follows (s : Cluster) (c : Nat) (event : ConnectionEvent) :
    Follows s (s.codecOnEvent c event) := by
  have hflags := s.modifyClient_follows c (f := CodecClient.setFlags event) fun _ => rfl
  unfold codecOnEvent
  dsimp only
  split
  · exact hflags.trans (foldl_follows resetStream_follows _ _)
  · exact hflags

/-- **A closed connection destroys the requests on it.** -/
theorem codecOnEvent_destroys (h : s.Exact)
    (hevent : (event.isClose || event.connectFailure) = true)
    (hc : s.clients[c]? = some client) (hr : r ∈ client.activeRequests) :
    (s.codecOnEvent c event).Destroyed r := by
  obtain ⟨request, hrequest, -, -⟩ := h.live c client r hc hr
  obtain ⟨hlt, -⟩ := List.getElem?_eq_some_iff.mp hrequest
  obtain ⟨before, after, hlist⟩ := List.append_of_mem hr
  unfold codecOnEvent
  dsimp only
  rw [if_pos hevent, getElem?_modifyClient, if_pos rfl, hc]
  show (client.activeRequests.foldl resetStream _).Destroyed r
  rw [hlist, List.foldl_append, List.foldl_cons]
  have hflags := s.modifyClient_follows c (f := CodecClient.setFlags event) fun _ => rfl
  have hbefore := hflags.trans (foldl_follows resetStream_follows before _)
  have hafter := foldl_follows resetStream_follows after
  exact (hafter _).destroyed r
    (resetStream_destroys (hbefore.exact h) (Nat.lt_of_lt_of_le hlt hbefore.made))

theorem clearPrimaryClient_follows (s : Cluster) (pool c : Nat) :
    Follows s (s.clearPrimaryClient pool c) := by
  unfold clearPrimaryClient
  split
  · exact s.clearActiveClient_follows pool
  · exact Follows.refl s

theorem close_follows (s : Cluster) (pool c : Nat) : Follows s (s.close pool c) := by
  unfold close
  split
  · exact Follows.refl s
  · have hflag := s.modifyClient_follows c (f := CodecClient.setClosed true) fun _ => rfl
    exact (hflag.trans (codecOnEvent_follows _ c _)).trans (clearPrimaryClient_follows _ pool c)

theorem onConnectionEvent_follows (s : Cluster) (pool c : Nat)
    (event : ConnectionEvent) : Follows s (s.onConnectionEvent rpc pool c event) := by
  cases rpc with
  | sofaRpc =>
    unfold onConnectionEvent
    dsimp only
    split
    · exact s.clearActiveClient_follows pool
    · exact Follows.refl s
  | xprotocol =>
    unfold onConnectionEvent
    dsimp only
    split
    · exact s.clearPrimaryClient_follows pool c
    · split
      · exact s.close_follows pool c
      · exact Follows.refl s

theorem onEvent_follows (s : Cluster) (c : Nat) (event : ConnectionEvent) :
    Follows s (s.onEvent rpc c event) := by
  unfold onEvent
  split
  · exact Follows.refl s
  · have hflag := s.modifyClient_follows c (f := CodecClient.setClosed event.isClose) fun _ => rfl
    exact (hflag.trans (codecOnEvent_follows _ c event)).trans
      (onConnectionEvent_follows rpc _ _ c event)

theorem onEvent_destroys (h : s.Exact) (hevent : (event.isClose || event.connectFailure) = true)
    (hc : s.clients[c]? = some client) (hr : r ∈ client.activeRequests) :
    (s.onEvent rpc c event).Destroyed r := by
  have hflag := s.modifyClient_follows c (f := CodecClient.setClosed event.isClose) fun _ => rfl
  have hget : (s.modifyClient c (CodecClient.setClosed event.isClose)).clients[c]?
      = some (client.setClosed event.isClose) := by
    rw [getElem?_modifyClient, if_pos rfl, hc]
    rfl
  unfold onEvent
  rw [hc]
  exact (onConnectionEvent_follows rpc _ _ c event).destroyed r
    (codecOnEvent_destroys (hflag.exact h) hevent hget hr)

theorem addClient_follows (s : Cluster) (pool : Nat) :
    Follows s { s with clients := s.clients ++ [({ pool := pool } : CodecClient)] } := by
  refine ⟨fun h => ?_, fun _ h => h, Nat.le_refl _, ?_⟩
  · have hlook : ∀ (c : Nat) (client : CodecClient),
        (s.clients ++ [({ pool := pool } : CodecClient)])[c]? = some client →
        s.clients[c]? = some client ∨ client.activeRequests = [] := by
      intro c client hc
      exact (getElem?_added hc).imp_right fun hnew => by rw [hnew.2]
    refine ⟨?_, ?_, ?_, ?_, h.destroyed, ?_⟩
    · have hactive : active { s with clients := s.clients ++ [({ pool := pool } : CodecClient)] }
          = s.active := by
        unfold active
        rw [List.map_append, List.sum_append]
        rfl
      rw [hactive]
      exact h.current
    · intro r request hr hlive
      obtain ⟨hlistens, client, hclient, hmem⟩ := h.listed r request hr hlive
      exact ⟨hlistens, client, getElem?_kept hclient, hmem⟩
    · intro c client r hc hr
      rcases hlook c client hc with hold | hnil
      · exact h.live c client r hold hr
      · rw [hnil] at hr
        cases hr
    · intro c client hc
      rcases hlook c client hc with hold | hnil
      · exact h.nodup c client hold
      · rw [hnil]
        exact List.nodup_nil
    · intro pool' c hpool
      show c < (s.clients ++ [_]).length
      rw [List.length_append]
      exact Nat.lt_add_right _ (h.pools pool' c hpool)
  · simp only [List.length_append]
    omega

/-- What `NewStream` makes of the client. -/
def remember (r : Nat) (client : CodecClient) : CodecClient :=
  { client with activeRequests := client.activeRequests ++ [r] }

/-- **A request is made**: it takes a slot and is listed, and both listeners
are there. -/
theorem openStream_eq (hcan : s.requests.canCreate = true) (c : Nat) : s.openStream c
      = { s with
          requests := s.requests.increase
          clients := s.clients.modify c (remember s.made.length)
          made := s.made ++ [({ codecClient := c, streamCbs := [.activeRequest, .upstreamRequest] }
            : ActiveRequest)] } := by
  unfold openStream
  rw [hcan]
  simp only [Bool.not_true, Bool.false_eq_true, if_false, onReady, setStreamCbs, codecNewStream,
    modifyRequest, modifyClient]
  have hlast : ∀ (l : List ActiveRequest) (x : ActiveRequest) (f : ActiveRequest → ActiveRequest),
      (l ++ [x]).modify l.length f = l ++ [f x] := by
    intro l x f
    induction l with
    | nil => rfl
    | cons y l ih => rw [List.cons_append, List.length_cons, List.modify_succ_cons, ih]; rfl
  rw [hlast]
  rfl

theorem active_remember (hc : s.clients[c]? = some client) :
    (s.modifyClient c (remember r)).active = s.active + 1 := by
  have hsum := sum_map_modify (fun client => client.activeRequests.length) (remember r) hc
  have hlength : (remember r client).activeRequests.length = client.activeRequests.length + 1 :=
    List.length_append
  show ((s.clients.modify c _).map fun client => client.activeRequests.length).sum = s.active + 1
  unfold active
  omega

theorem lookup_remember (h : s.Exact)
    (hc' : (s.modifyClient c (remember s.made.length)).clients[c']? = some client') :
    client'.activeRequests.Nodup ∧ ∀ r ∈ client'.activeRequests,
      (c = c' ∧ r = s.made.length) ∨ ∃ old, s.clients[c']? = some old ∧ r ∈ old.activeRequests := by
  obtain ⟨old, hold, rfl⟩ := getElem?_modified hc'
  have hnodup := h.nodup c' old hold
  split
  next heq =>
    have hnew : ∀ r ∈ old.activeRequests, r ≠ s.made.length := by
      rintro r hr rfl
      obtain ⟨request, hrequest, -⟩ := h.live c' old _ hold hr
      rw [List.getElem?_length] at hrequest
      cases hrequest
    refine ⟨List.nodup_append.mpr ⟨hnodup, by simp, fun r hr r' hr' => ?_⟩,
      fun r hr => ?_⟩
    · rw [List.mem_singleton.mp hr']
      exact hnew r hr
    · rcases List.mem_append.mp hr with hmem | hmem
      · exact Or.inr ⟨old, hold, hmem⟩
      · exact Or.inl ⟨heq, List.mem_singleton.mp hmem⟩
  next => exact ⟨hnodup, fun r hr => Or.inr ⟨old, hold, hr⟩⟩

theorem openStream_exact (h : s.Exact) (hc : c < s.clients.length) : (s.openStream c).Exact := by
  cases hcan : s.requests.canCreate with
  | false =>
    unfold openStream
    rw [hcan]
    exact h
  | true =>
    rw [openStream_eq hcan]
    obtain ⟨client, hclient⟩ : ∃ client, s.clients[c]? = some client :=
      ⟨_, List.getElem?_eq_getElem hc⟩
    refine ⟨?_, ?_, ?_, fun c' client' hc' => (lookup_remember h hc').1, ?_,
      h.pools_modify c (remember s.made.length)⟩
    · show s.requests.current + 1 = Int64.ofNat (s.modifyClient _ _).active
      rw [active_remember hclient, Int64.ofNat_add, h.current]
      rfl
    · intro i request hrequest hlive
      rcases getElem?_added hrequest with hold | ⟨rfl, rfl⟩
      · obtain ⟨hlistens, old, hclient', hmem⟩ := h.listed i request hold hlive
        refine ⟨hlistens, _, getElem?_modify_of hclient' c _, ?_⟩
        split
        · exact List.mem_append_left _ hmem
        · exact hmem
      · -- the new request is at the end of its client's list
        refine ⟨List.mem_cons_self, _, getElem?_modify_of hclient c _, ?_⟩
        rw [if_pos rfl]
        exact List.mem_append_right _ (List.mem_singleton_self _)
    · intro c' client' r hc' hr
      rcases (lookup_remember h hc').2 r hr with ⟨rfl, rfl⟩ | ⟨old, hold, hr⟩
      · exact ⟨_, List.getElem?_concat_length, rfl, rfl⟩
      · obtain ⟨request, hrequest, hof, hlive⟩ := h.live c' old r hold hr
        exact ⟨request, getElem?_kept hrequest, hof, hlive⟩
    · intro i request hrequest
      rcases getElem?_added hrequest with hold | ⟨-, rfl⟩
      · exact h.destroyed i request hold
      · rfl

theorem openStream_follows (s : Cluster) (hc : c < s.clients.length) :
    Follows s (s.openStream c) := by
  have hexact : s.Exact → (s.openStream c).Exact := fun h => openStream_exact h hc
  cases hcan : s.requests.canCreate with
  | false =>
    unfold openStream
    rw [hcan]
    exact Follows.refl s
  | true =>
    rw [openStream_eq hcan] at hexact ⊢
    refine ⟨hexact, ?_, ?_, Nat.le_of_eq (List.length_modify _ _ _).symm⟩
    · rintro r ⟨request, hrequest, hdeleted⟩
      exact ⟨request, getElem?_kept hrequest, hdeleted⟩
    · simp only [List.length_append]
      omega

theorem newActiveClient_follows (s : Cluster) (pool : Nat) (dialed : Dialed) :
    Follows s (s.newActiveClient rpc pool dialed) := by
  have hadd := s.addClient_follows pool
  have hlt : s.clients.length < (s.clients ++ [({ pool := pool } : CodecClient)]).length := by
    simp only [List.length_append, List.length_singleton]
    omega
  cases rpc with
  | sofaRpc =>
    have hlast := onEvent_follows .sofaRpc
      { s with clients := s.clients ++ [({ pool := pool } : CodecClient)] } s.clients.length
      dialed.event
    have hevent := hadd.trans hlast
    refine ⟨fun h => setActiveClient_exact (hevent.exact h) pool ?_, hevent.destroyed,
      hevent.made, hevent.clients⟩
    intro c hc
    obtain ⟨-, hc⟩ := Option.ite_none_right_eq_some.mp hc
    cases hc
    exact Nat.lt_of_lt_of_le hlt hlast.clients
  | xprotocol =>
    refine ⟨fun h => setActiveClient_exact (hadd.exact h) pool ?_, hadd.destroyed, hadd.made,
      hadd.clients⟩
    intro c hc
    cases hc
    exact hlt

theorem newStream_follows (h : s.Exact) (pool : Nat) (dialed : Dialed) :
    Follows s (s.newStream rpc pool dialed) := by
  have hclient : Follows s
      (if s.activeClient pool = none then s.newActiveClient rpc pool dialed else s) := by
    split
    · exact s.newActiveClient_follows rpc pool dialed
    · exact Follows.refl s
  unfold newStream
  dsimp only
  generalize (if s.activeClient pool = none then s.newActiveClient rpc pool dialed else s) = t
    at hclient ⊢
  cases hc : t.activeClient pool with
  | none => exact hclient
  | some c => exact hclient.trans (t.openStream_follows ((hclient.exact h).pools pool c hc))

end Calls

/-! ## §5. Whole runs. -/

theorem step_follows (rpc : RpcProtocol) {s : Cluster} (h : s.Exact) (a : Action) :
    Follows s (s.step rpc a) := by
  cases a with
  | newStream pool dialed => exact newStream_follows rpc h pool dialed
  | onReceiveHeaders r endStream | onReceiveData r endStream =>
    cases endStream with
    | true => exact s.responseDecodeComplete_follows rpc.protocol r
    | false => exact Follows.refl s
  | onReceiveTrailers r => exact s.responseDecodeComplete_follows rpc.protocol r
  | upstreamResetStream r => exact s.upstreamResetStream_follows rpc r
  | resetStream r => exact s.resetStream_follows r
  | onEvent c event => exact s.onEvent_follows rpc c event
  | addEventListener r n =>
    exact s.setStreamCbs_follows r fun _ _ hmem => List.mem_append_left _ hmem
  | removeEventListener r n => exact s.removeEventListener_follows rpc r Listener.noConfusion

/-- The call completes request `r` or resets it. -/
def Ends (s : Cluster) (r : Nat) : Action → Prop
  | .onReceiveHeaders r' endStream => r' = r ∧ endStream = true
  | .onReceiveData r' endStream => r' = r ∧ endStream = true
  | .onReceiveTrailers r' => r' = r
  | .upstreamResetStream r' => r' = r
  | .resetStream r' => r' = r
  | .onEvent c event => (event.isClose || event.connectFailure) = true
      ∧ ∃ client, s.clients[c]? = some client ∧ r ∈ client.activeRequests
  | _ => False

theorem step_destroys (rpc : RpcProtocol) {s : Cluster} (h : s.Exact) {r : Nat} {a : Action}
    (hr : r < s.made.length) (hends : s.Ends r a) : (s.step rpc a).Destroyed r := by
  cases a with
  | newStream | addEventListener | removeEventListener => exact hends.elim
  | onReceiveHeaders | onReceiveData =>
    obtain ⟨rfl, rfl⟩ := hends
    exact responseDecodeComplete_destroys rpc.protocol hr
  | onReceiveTrailers r' =>
    cases hends
    exact responseDecodeComplete_destroys rpc.protocol hr
  | upstreamResetStream r' =>
    cases hends
    exact upstreamResetStream_destroys rpc h hr
  | resetStream r' =>
    cases hends
    exact resetStream_destroys h hr
  | onEvent c event =>
    obtain ⟨hevent, client, hclient, hmem⟩ := hends
    exact onEvent_destroys rpc h hevent hclient hmem

section Runs

variable {rpc : RpcProtocol} {max : UInt64} {as : List Action} {s : Cluster}

theorem run_exact {t : Cluster} (ht : t.Exact) (hrun : Run (Step rpc) t as s) : s.Exact := by
  refine hrun.invariant Exact (fun u a v hu hstep => ?_) ht
  subst hstep
  exact (step_follows rpc hu a).exact hu

theorem run_destroyed {t : Cluster} (ht : t.Exact) (hrun : Run (Step rpc) t as s) {r : Nat}
    (hr : t.Destroyed r) : s.Destroyed r := by
  refine (hrun.invariant (fun u => u.Exact ∧ u.Destroyed r) (fun u a v hu hstep => ?_)
    ⟨ht, hr⟩).2
  subst hstep
  have hfollows := step_follows rpc hu.1 a
  exact ⟨hfollows.exact hu.1, hfollows.destroyed r hu.2⟩

/-- **Request slots.**  After every run the cluster counts the requests in the
lists of its clients; no request was destroyed twice, and each that has
completed or was reset on the way was destroyed once. -/
theorem slots_exact (hrun : Run (Step rpc) (Cluster.new max) as s) :
    s.requests.current = Int64.ofNat s.active
      ∧ (s.active < 2 ^ 63 → s.requests.current.toInt = s.active)
      ∧ (∀ request ∈ s.made, request.destroyed ≤ 1)
      ∧ ∀ before a after t r, as = before ++ a :: after →
        Run (Step rpc) (Cluster.new max) before t → r < t.made.length → t.Ends r a →
        ∃ request, s.made[r]? = some request ∧ request.destroyed = 1 := by
  have h := run_exact (new_exact max) hrun
  refine ⟨h.current, ?_, ?_, ?_⟩
  · intro hlt
    rw [h.current]
    exact Int64.toInt_ofNat_of_lt hlt
  · intro request hrequest
    obtain ⟨r, hr⟩ := List.mem_iff_getElem?.mp hrequest
    rw [h.destroyed r request hr]
    split
    · exact Nat.le_refl 1
    · exact Nat.zero_le 1
  · -- the step that ends the request destroys it, and the rest of the run keeps that
    intro before a after t r has hbefore hr hends
    rw [has] at hrun
    obtain ⟨t', ht', hrest⟩ := hrun.split
    have hunique : t' = t := ht'.unique (fun _ _ _ _ h h' => h.trans h'.symm) hbefore
    subst hunique
    obtain ⟨u, hstep, hafter⟩ := hrest.first
    subst hstep
    have ht := run_exact (new_exact max) hbefore
    have hexact := (step_follows rpc ht a).exact ht
    obtain ⟨request, hrequest, hdeleted⟩ :=
      run_destroyed hexact hafter (step_destroys rpc ht hr hends)
    refine ⟨request, hrequest, ?_⟩
    rw [h.destroyed r request hrequest, if_pos hdeleted]

theorem run_foldl (rpc : RpcProtocol) (as : List Action) :
    ∀ s : Cluster, Run (Step rpc) s as (as.foldl (step rpc) s) := by
  induction as with
  | nil => exact fun _ => .nil
  | cons a as ih =>
    intro s
    have hfirst : Run (Step rpc) s [a] (s.step rpc a) := Run.nil.snoc rfl
    exact hfirst.append (ih _)

end Runs

/-- Two requests: one is answered twice and then reset, the other's connection
breaks. -/
def brokenConnection : List Action :=
  [.newStream 0 .connected, .newStream 0 .connected, .onReceiveHeaders 0 true,
    .onReceiveHeaders 0 true, .resetStream 0, .onEvent 0 .remoteClose]

theorem brokenConnection_slots : ∃ s, Run (Step .sofaRpc) (Cluster.new 8) brokenConnection s
      ∧ s.made.map ActiveRequest.destroyed = [1, 1]
      ∧ s.requests.current = Int64.ofNat s.active :=
  ⟨_, run_foldl .sofaRpc brokenConnection (Cluster.new 8), by decide,
    (slots_exact (run_foldl .sofaRpc brokenConnection (Cluster.new 8))).1⟩

/-- **A request is active exactly until it is destroyed**: in the list of the
client it was made on until then, and in none afterwards. -/
theorem live_iff_listed (rpc : RpcProtocol) (max : UInt64) (as : List Action) :
    EveryState (Step rpc) (fun s => ∀ r c : Nat,
      (∃ client, s.clients[c]? = some client ∧ r ∈ client.activeRequests)
        ↔ ∃ request, s.made[r]? = some request ∧ request.destroyed = 0 ∧ request.codecClient = c)
      (Cluster.new max) as := by
  intro before after s _ hrun r c
  have h := run_exact (new_exact max) hrun
  constructor
  · rintro ⟨client, hc, hmem⟩
    obtain ⟨request, hr, hclient, hlive⟩ := h.live c client r hc hmem
    exact ⟨request, hr, by rw [h.destroyed r request hr, hlive]; rfl, hclient⟩
  · rintro ⟨request, hr, hzero, rfl⟩
    have hlive : request.deleted = false := by
      by_contra hdeleted
      rw [h.destroyed r request hr, if_pos (eq_true_of_ne_false hdeleted)] at hzero
      cases hzero
    exact (h.listed r request hr hlive).2

/-! ## §6. The listeners of the HTTP streams. -/

section Http

variable (http : HttpProtocol) {s : Cluster} {r : Nat} {request : ActiveRequest}

variable (streamCbs : List Listener)

theorem http_removeEventListener (cb : Listener) :
    removeEventListener http.protocol streamCbs cb = streamCbs.tail := by
  cases http with
  | http1 | http2 => exact cutFirst_self streamCbs

theorem ne_cons_erase {first cb : Listener} (hne : first ≠ cb) (streamCbs : List Listener) :
    streamCbs ≠ first :: streamCbs.erase cb := by
  induction streamCbs with
  | nil => exact nofun
  | cons second rest ih =>
    rw [List.erase_cons]
    intro h
    split at h
    next heq => exact hne ((List.cons.inj h).1.symm.trans (beq_iff_eq.mp heq))
    next =>
      obtain ⟨rfl, hrest⟩ := List.cons.inj h
      exact ih hrest

theorem tail_eq_erase_iff (cb : Listener) :
    streamCbs.tail = streamCbs.erase cb ↔ streamCbs = [] ∨ streamCbs.head? = some cb := by
  cases streamCbs with
  | nil => exact ⟨fun _ => Or.inl rfl, fun _ => rfl⟩
  | cons first rest =>
    rw [List.tail_cons, List.head?_cons, List.erase_cons]
    by_cases heq : first = cb
    · subst heq
      rw [if_pos (beq_self_eq_true first)]
      exact ⟨fun _ => Or.inr rfl, fun _ => rfl⟩
    · rw [if_neg (fun hbeq => heq (beq_iff_eq.mp hbeq))]
      refine ⟨fun h => absurd h (ne_cons_erase heq rest), ?_⟩
      rintro (h | h)
      · cases h
      · exact absurd (Option.some.inj h) heq

/-- What the call of a listener does to the request. -/
def tell (request : ActiveRequest) : Listener → ActiveRequest
  | .activeRequest => if request.deleted then request else destroy request
  | .upstreamRequest => { request with upstreamResets := request.upstreamResets + 1 }
  | .other _ => request

theorem onResetStream_tell (hr : s.made[r]? = some request) (cb : Listener) :
    (onResetStream r s cb).made[r]? = some (tell request cb)
      ∧ (onResetStream r s cb).requests.current + Int64.ofNat (tell request cb).destroyed
        = s.requests.current + Int64.ofNat request.destroyed := by
  cases cb with
  | activeRequest =>
    show (s.deleteRequest r).made[r]? = _ ∧ _
    cases hlive : request.deleted with
    | true =>
      unfold onResetStream tell
      rw [deleteRequest_same hr hlive, hlive]
      exact ⟨hr, rfl⟩
    | false =>
      unfold onResetStream tell
      rw [deleteRequest_live hr hlive, hlive]
      refine ⟨?_, ?_⟩
      · rw [List.getElem?_modify_eq, hr]
        rfl
      · show s.requests.current - 1 + Int64.ofNat (request.destroyed + 1) = _
        rw [Int64.ofNat_add, Int64.add_comm (Int64.ofNat request.destroyed), ← Int64.add_assoc]
        congr 1
        exact Int64.sub_add_cancel _ _
  | upstreamRequest =>
    refine ⟨?_, rfl⟩
    show (s.modifyRequest r _).made[r]? = _
    rw [getElem?_modifyRequest, if_pos rfl, hr]
    rfl
  | other n => exact ⟨hr, rfl⟩

theorem foldl_tell : ∀ {s : Cluster} {request : ActiveRequest},
    s.made[r]? = some request →
    (streamCbs.foldl (onResetStream r) s).made[r]? = some (streamCbs.foldl tell request)
      ∧ (streamCbs.foldl (onResetStream r) s).requests.current
          + Int64.ofNat (streamCbs.foldl tell request).destroyed
        = s.requests.current + Int64.ofNat request.destroyed := by
  induction streamCbs with
  | nil => exact fun hr => ⟨hr, rfl⟩
  | cons cb streamCbs ih =>
    intro s request hr
    obtain ⟨hone, hcount⟩ := onResetStream_tell hr cb
    obtain ⟨hall, hrest⟩ := ih hone
    exact ⟨hall, hrest.trans hcount⟩

/-- **What the listeners are told**: the `upstreamRequest` as often as it
listens; a live request is destroyed, once, if its `activeRequest` listens. -/
theorem foldl_tell_eq : ∀ request : ActiveRequest, streamCbs.foldl tell request
    = { request with
        upstreamResets := request.upstreamResets + streamCbs.count .upstreamRequest
        deleted := request.deleted || decide (Listener.activeRequest ∈ streamCbs)
        destroyed := request.destroyed
          + if !request.deleted ∧ Listener.activeRequest ∈ streamCbs then 1 else 0 } := by
  induction streamCbs with
  | nil => simp
  | cons cb streamCbs ih =>
    intro request
    rw [List.foldl_cons, ih]
    cases cb <;> cases hlive : request.deleted <;>
      simp [tell, destroy, hlive]
    all_goals omega

/-- What a local reset should do: the `upstreamRequest` hears nothing of it,
the request is destroyed, once, and its slot given back. -/
def LocalReset (s : Cluster) (protocol : Protocol) (r : Nat) : Prop :=
  ∃ request request', s.made[r]? = some request
    ∧ (s.upstreamResetStream protocol r).made[r]? = some request'
    ∧ request'.upstreamResets = request.upstreamResets
    ∧ request'.destroyed = request.destroyed + 1
    ∧ (s.upstreamResetStream protocol r).requests.current = s.requests.current - 1

theorem upstreamResetStream_tell (hr : s.made[r]? = some request) :
    (s.upstreamResetStream http.protocol r).made[r]?
        = some (request.streamCbs.tail.foldl tell
            { request with streamCbs := request.streamCbs.tail })
      ∧ (s.upstreamResetStream http.protocol r).requests.current
          + Int64.ofNat (request.streamCbs.tail.foldl tell
              { request with streamCbs := request.streamCbs.tail }).destroyed
        = s.requests.current + Int64.ofNat request.destroyed := by
  -- the stream after `RemoveEventListener`
  have hget : (s.setStreamCbs r fun streamCbs =>
      removeEventListener http.protocol streamCbs .upstreamRequest).made[r]?
      = some { request with streamCbs := request.streamCbs.tail } := by
    show (s.modifyRequest r _).made[r]? = _
    rw [getElem?_modifyRequest, if_pos rfl, hr, Option.map_some]
    dsimp only
    rw [http_removeEventListener]
  have hcbs : (s.setStreamCbs r fun streamCbs =>
      removeEventListener http.protocol streamCbs .upstreamRequest).streamCbs r
      = request.streamCbs.tail := by
    unfold streamCbs
    rw [hget]
    rfl
  unfold upstreamResetStream resetStream
  rw [hcbs]
  exact foldl_tell request.streamCbs.tail hget

/-- **A local reset of a live HTTP request** does so exactly when, behind the
first listener of its stream, there is the `activeRequest` and not the
`upstreamRequest`. -/
theorem localReset_iff (hr : s.made[r]? = some request) (hlive : request.deleted = false) :
    s.LocalReset http.protocol r
      ↔ Listener.activeRequest ∈ request.streamCbs.tail
        ∧ Listener.upstreamRequest ∉ request.streamCbs.tail := by
  obtain ⟨hlast, hcurrent⟩ := upstreamResetStream_tell http hr
  rw [foldl_tell_eq] at hlast hcurrent
  unfold LocalReset
  rw [hlast]
  constructor
  · rintro ⟨_, _, hr', hlast', hresets, hdestroyed, -⟩
    cases hr.symm.trans hr'
    cases hlast'
    refine ⟨?_, List.count_eq_zero.mp (Nat.add_left_cancel hresets)⟩
    by_contra hnot
    simp [hnot] at hdestroyed
  · rintro ⟨hactive, hupstream⟩
    refine ⟨request, _, hr, rfl, ?_, ?_, ?_⟩
    · rw [List.count_eq_zero.mpr hupstream]
      rfl
    · simp [hlive, hactive]
    · simp only [hlive, hactive] at hcurrent
      replace hcurrent : _ + Int64.ofNat (request.destroyed + 1)
        = s.requests.current + Int64.ofNat request.destroyed := hcurrent
      rw [Int64.ofNat_add, Int64.add_comm (Int64.ofNat request.destroyed), ← Int64.add_assoc]
        at hcurrent
      exact Int64.eq_sub_iff_add_eq.mpr ((Int64.add_left_inj _).mp hcurrent)

theorem openStream_made (hcan : s.requests.canCreate = true) (c : Nat) :
    (s.openStream c).made[s.made.length]?
      = some { codecClient := c, streamCbs := [.activeRequest, .upstreamRequest] } := by
  rw [openStream_eq hcan]
  exact List.getElem?_concat_length

/-- **Listeners of HTTP streams.**  `RemoveEventListener` removes the listener
it is given exactly when that is the first one, or there is none.  A local
reset of a live request does what it should exactly when the `activeRequest`
is left behind the first listener and the `upstreamRequest` is not: so never
for a request as the pool hands it out. -/
theorem http_listeners :
    (∀ streamCbs cb, removeEventListener http.protocol streamCbs cb = streamCbs.erase cb
        ↔ streamCbs = [] ∨ streamCbs.head? = some cb)
      ∧ (∀ (s : Cluster) (r : Nat) (request : ActiveRequest), s.made[r]? = some request →
        request.deleted = false → (s.LocalReset http.protocol r
          ↔ Listener.activeRequest ∈ request.streamCbs.tail
            ∧ Listener.upstreamRequest ∉ request.streamCbs.tail))
      ∧ ∀ (s : Cluster) (c : Nat), s.requests.canCreate = true →
        ¬ (s.openStream c).LocalReset http.protocol s.made.length := by
  refine ⟨?_, fun s r request => localReset_iff http, ?_⟩
  · intro streamCbs cb
    rw [http_removeEventListener]
    exact tail_eq_erase_iff streamCbs cb
  · intro s c hcan hreset
    obtain ⟨hmem, -⟩ := (localReset_iff http (openStream_made hcan c) rfl).mp hreset
    cases List.mem_singleton.mp hmem

end Http

/-- One request through a client, with both listeners. -/
def openedRequest : Cluster :=
  ({ Cluster.new 8 with clients := [({ pool := 0 } : CodecClient)] }).openStream 0

/-- The proxy resets the stream: its own `upstreamRequest` is told, the
request stays in the list, and its slot is not given back. -/
theorem openedRequest_not_released :
    removeEventListener .http2 [.activeRequest, .upstreamRequest] .upstreamRequest
        ≠ [Listener.activeRequest, .upstreamRequest].erase .upstreamRequest
      ∧ (openedRequest.upstreamResetStream .http2 0).made.map ActiveRequest.upstreamResets = [1]
      ∧ (openedRequest.upstreamResetStream .http2 0).made.map ActiveRequest.destroyed = [0]
      ∧ (openedRequest.upstreamResetStream .http2 0).active = 1
      ∧ (openedRequest.upstreamResetStream .http2 0).requests.current = 1 := by
  refine ⟨by decide, by decide, by decide, by decide, by decide⟩

end Cluster

end Mosn.Stream.Codec
