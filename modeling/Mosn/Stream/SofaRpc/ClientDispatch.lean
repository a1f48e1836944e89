/-
  Mosn.Stream.SofaRpc.ClientDispatch
  **WHAT AN UPSTREAM CAN DO TO THE PROXY.**

  A client connection runs the same decode loop as a server connection, but
  has no one to announce a new stream to.  Whether a frame announces one is
  read from its HEADERS, in which the peer's own entries come last.

  Two kinds of frames keep `Dispatch` from returning:

    • one that is taken for a request, under an id without a stream: a nil
      dereference,
    • a complete V2 response: it is never drained, so the loop stays on it.
-/
import Mosn.Stream.SofaRpc.Receive

namespace Mosn.Stream.SofaRpc

open Mosn.Lib Mosn.Types Mosn.Network Mosn.Protocol Mosn.Protocol.SofaRpc
open Mosn.Protocol.Serialize

/-! ## §1. A command on a client connection. -/

section Command

variable {ρ : Type} (order : HeaderOrder) (spare : List UInt8)

/-- The command is taken for a request, under an id without a stream. -/
def TakenForRequest (w : ConnWorld ρ) (cmd : Command) : Prop :=
  ∃ o g, offer order spare w.generator cmd = .ok (some o, g)
    ∧ isSofaRequest o.headers = true ∧ w.filter.activeStreams.lookup o.streamID = none

/-- The header section can be decoded. -/
def Decodable (headerSection : List UInt8) : Prop :=
  ∃ m, deSerializeMap spare headerSection ∅ = .ok m

variable {spare}

theorem headers_ok {cmd : Command} (h : Decodable spare cmd.headerSection) :
    ∃ m, cmd.headers order spare = .ok m := by
  obtain ⟨m, hm⟩ := h
  cases cmd with
  | boltRequest | boltResponse => exact ⟨_, allFields_ok order _ hm⟩
  | boltV2Request | boltV2Response => exact ⟨_, congrArg (Except.map _) (allFields_ok order _ hm)⟩

theorem offer_ok {cmd : Command} (h : Decodable spare cmd.headerSection) (g : IDGenerator) :
    ∃ r, offer order spare g cmd = .ok r := by
  obtain ⟨m, hm⟩ := headers_ok order h
  unfold offer
  rw [hm]
  split
  · exact ⟨_, rfl⟩
  · split
    · exact ⟨_, rfl⟩
    · split
      · exact ⟨_, rfl⟩
      · exact ⟨_, rfl⟩

variable {order} {w : ConnWorld ρ} {cmd : Command}

/-- **A command that is taken for a request crashes a client connection.** -/
theorem takeOffer_panics (hclient : w.filter.serverCallbacks = none)
    (h : TakenForRequest order spare w cmd) :
    takeOffer StreamConnection.filter order spare cmd w = .error .nilDereference := by
  obtain ⟨o, g, hoffer, hreq, hnew⟩ := h
  rw [takeOffer_eq _ _ _ _ hoffer,
    StreamConnection.take_panics ((isSofaRequest_marked o).trans hreq) hclient hnew]
  rfl

/-- **Any other command does not.** -/
theorem takeOffer_client (hdec : Decodable spare cmd.headerSection)
    (h : ¬ TakenForRequest order spare w cmd) :
    ∃ w', takeOffer StreamConnection.filter order spare cmd w = .ok w' := by
  obtain ⟨⟨o, g⟩, hoffer⟩ := offer_ok order hdec w.generator
  have htake : ∃ conn', StreamConnection.filter.take o w.filter = .ok conn' := by
    cases o with
    | none => exact ⟨w.filter, rfl⟩
    | some o =>
      cases hactive : w.filter.activeStreams.lookup o.streamID with
      | some stream =>
        exact ⟨_, StreamConnection.take_active hactive⟩
      | none =>
        have hreq : isSofaRequest o.marked = false := by
          rw [isSofaRequest_marked, Bool.eq_false_iff]
          exact fun hreq => h ⟨o, g, hoffer, hreq, hactive⟩
        exact ⟨_, StreamConnection.take_unknown hreq hactive⟩
  obtain ⟨conn', hconn'⟩ := htake
  exact ⟨⟨g, conn'⟩, by rw [takeOffer_eq _ _ _ _ hoffer, hconn']; rfl⟩

theorem takeOffer_serverCallbacks {w' : ConnWorld ρ}
    (hclient : w.filter.serverCallbacks = none)
    (h : takeOffer StreamConnection.filter order spare cmd w = .ok w') :
    w'.filter.serverCallbacks = none := by
  simp only [takeOffer, bind_eq_ok, pure, Except.pure, Except.ok.injEq] at h
  obtain ⟨⟨o, g⟩, hoffer, conn', hconn', rfl⟩ := h
  cases o with
  | none =>
    cases hconn'
    exact hclient
  | some o => exact (StreamConnection.take_client hclient hconn').2.1

end Command

/-! ## §2. The loop. -/

namespace StreamConnection

variable {ρ : Type} (order : HeaderOrder) (spare : List UInt8) (clock : Nat → Int)

theorem reportDecodeError_ok (e : GoError) (w : ConnWorld ρ) :
    ∃ w', reportDecodeError e w = .ok w' := by
  unfold reportDecodeError onDecodeError
  split
  · exact ⟨_, rfl⟩
  · split
    · exact ⟨_, rfl⟩
    · exact ⟨_, rfl⟩

theorem pass_done {s : ConnLoop ρ}
    (hno : ∀ k : FrameKind, k.At s.data.bytes → ¬ k.Handled s.data.bytes) :
    ∃ s', pass order spare clock s = .ok (.done s')
      ∧ (s'.env = s.env ∨ ∃ e, reportDecodeError e s.env = .ok s'.env) := by
  have hreport : ∀ e (t : ConnLoop ρ), t.env = s.env →
      ∃ s', Protocols.reportError reportDecodeError e t = .ok (.done s')
        ∧ reportDecodeError e s.env = .ok s'.env := by
    intro e t ht
    obtain ⟨w', hw'⟩ := reportDecodeError_ok e s.env
    unfold Protocols.reportError
    rw [ht, hw']
    exact ⟨_, rfl, rfl⟩
  by_cases hk : ∃ k : FrameKind, k.At s.data.bytes
  · obtain ⟨k, hk⟩ := hk
    obtain ⟨t, ht, -, hbody⟩ := Protocols.decodeBody_of_unhandled reportDecodeError clock s
      (newBoltCommandHandler filter order spare) (newBoltCommandHandlerV2 filter order spare) hk
      (hno k hk)
    obtain ⟨s', hs', henv⟩ := hreport _ t ht
    exact ⟨s', hbody.trans hs', Or.inr ⟨_, henv⟩⟩
  · push Not at hk
    rcases Protocols.decodeBody_no_frame reportDecodeError clock s
      (newBoltCommandHandler filter order spare) (newBoltCommandHandlerV2 filter order spare) hk
      with hbody | ⟨e, hbody⟩
    · exact ⟨s, hbody, Or.inl rfl⟩
    · obtain ⟨s', hs', henv⟩ := hreport e s rfl
      exact ⟨s', hbody.trans hs', Or.inr ⟨e, henv⟩⟩

/-- The frame at the head of the buffer keeps the loop from returning: a V2
response, or a frame that is taken for a request under an id without a
stream. -/
def Fatal (s : ConnLoop ρ) : Prop :=
  ∃ k : FrameKind, k.At s.data.bytes ∧ k.Handled s.data.bytes
    ∧ (k = .responseV2
      ∨ TakenForRequest order spare s.env (k.command (clock s.handed.length) s.data.bytes))

/-- The header section of the frame at the head of the buffer can be decoded. -/
def HeaderDecodable (s : ConnLoop ρ) : Prop :=
  ∀ k : FrameKind, k.At s.data.bytes →
    Decodable spare (k.layout.sections s.data.bytes).header

theorem headerSection_command (k : FrameKind) (now : Int) (b : List UInt8) :
    (k.command now b).headerSection = (k.layout.sections b).header := by
  cases k <;> rfl

variable {order spare clock} {s : ConnLoop ρ}

theorem pass_responseV2 (hk : FrameKind.responseV2.At s.data.bytes)
    (hcmd : FrameKind.responseV2.Handled s.data.bytes) : (∃ e, pass order spare clock s = .error e)
      ∨ ∃ s', pass order spare clock s = .ok (.again s') ∧ s'.data = s.data := by
  have hbody := decodeBody_offer order spare clock s hk hcmd
  cases htake : takeOffer filter order spare
      (FrameKind.responseV2.command (clock s.handed.length) s.data.bytes) s.env with
  | error e =>
    rw [htake] at hbody
    exact Or.inl ⟨e, hbody⟩
  | ok w' =>
    rw [htake] at hbody
    exact Or.inr ⟨_, hbody, rfl⟩

/-- **A fatal frame** at the head: the loop does not return. -/
theorem Fatal.not_returns (hclient : s.env.filter.serverCallbacks = none)
    (h : Fatal order spare clock s) (s' : ConnLoop ρ) :
    ¬ Loop.Returns (pass order spare clock) s (.ok s') := by
  obtain ⟨k, hk, hcmd, rfl | htaken⟩ := h
  · -- the invariant: the same V2 response at the head
    apply Loop.not_returns_ok_of_invariant
      (fun t => FrameKind.responseV2.At t.data.bytes ∧ FrameKind.responseV2.Handled t.data.bytes)
      _ ⟨hk, hcmd⟩
    rintro t ⟨htk, htcmd⟩
    rcases pass_responseV2 htk htcmd with he | ⟨t', ht', hdata⟩
    · exact Or.inl he
    · exact Or.inr ⟨t', ht', by rw [hdata]; exact ⟨htk, htcmd⟩⟩
  · intro hreturns
    have hbody : pass order spare clock s = .error .nilDereference := by
      refine (decodeBody_offer order spare clock s hk hcmd).trans ?_
      rw [takeOffer_panics hclient htaken]
      rfl
    cases hreturns.unique (Loop.Returns.of_error hbody)

/-- **Any other state** leaves the loop, or makes it go on with fewer bytes. -/
theorem pass_client (hdec : HeaderDecodable spare s) (h : ¬ Fatal order spare clock s) :
    (∃ s', pass order spare clock s = .ok (.done s'))
      ∨ ∃ s', pass order spare clock s = .ok (.again s') ∧ s'.data.len < s.data.len := by
  by_cases hk : ∃ k : FrameKind, k.At s.data.bytes ∧ k.Handled s.data.bytes
  · obtain ⟨k, hk, hcmd⟩ := hk
    have hnotV2 : k ≠ .responseV2 := fun heq => h ⟨k, hk, hcmd, Or.inl heq⟩
    have hnew : ¬ TakenForRequest order spare s.env
        (k.command (clock s.handed.length) s.data.bytes) :=
      fun htaken => h ⟨k, hk, hcmd, Or.inr htaken⟩
    have hsection : Decodable spare
        (k.command (clock s.handed.length) s.data.bytes).headerSection := by
      rw [headerSection_command]
      exact hdec k hk
    obtain ⟨w', hw'⟩ := takeOffer_client hsection hnew
    have hbody := decodeBody_offer order spare clock s hk hcmd
    rw [hw'] at hbody
    refine Or.inr ⟨_, hbody, ?_⟩
    have hlen := hk.len_advance hnotV2
    have hpos := k.frameLen_pos s.data.bytes
    show (k.advance s.data).len < s.data.len
    omega
  · push Not at hk
    obtain ⟨s', hs', -⟩ := pass_done order spare clock hk
    exact Or.inl ⟨s', hs'⟩

variable {s' t : ConnLoop ρ}

theorem pass_ok {next : Next (ConnLoop ρ)}
    (h : pass order spare clock s = .ok next) :
    (∃ (k : FrameKind) (s' : _), next = .again s' ∧ k.At s.data.bytes ∧ k.Handled s.data.bytes
      ∧ takeOffer filter order spare (k.command (clock s.handed.length) s.data.bytes) s.env
        = .ok s'.env ∧ s'.data = k.advance s.data)
      ∨ ∃ s', next = .done s' ∧ (s'.env = s.env ∨ ∃ e, reportDecodeError e s.env = .ok s'.env) := by
  by_cases hk : ∃ k : FrameKind, k.At s.data.bytes ∧ k.Handled s.data.bytes
  · obtain ⟨k, hk, hcmd⟩ := hk
    have hbody : pass order spare clock s = _ := decodeBody_offer order spare clock s hk hcmd
    rw [h] at hbody
    obtain ⟨w', hw', hnext⟩ := map_eq_ok.mp hbody.symm
    exact Or.inl ⟨k, _, hnext.symm, hk, hcmd, hw', rfl⟩
  · push Not at hk
    obtain ⟨t, ht, henv⟩ := pass_done order spare clock hk
    rw [h] at ht
    cases ht
    exact Or.inr ⟨t, rfl, henv⟩

theorem pass_again (h : pass order spare clock s = .ok (.again s')) :
    ∃ k : FrameKind, k.At s.data.bytes ∧ k.Handled s.data.bytes
      ∧ takeOffer filter order spare (k.command (clock s.handed.length) s.data.bytes) s.env
        = .ok s'.env ∧ s'.data = k.advance s.data := by
  rcases pass_ok h with ⟨k, _, heq, hframe⟩ | ⟨_, heq, -⟩ <;> cases heq
  exact ⟨k, hframe⟩

theorem reaches_client (h : Loop.Reaches (pass order spare clock) s t)
    (hclient : s.env.filter.serverCallbacks = none) : t.env.filter.serverCallbacks = none := by
  refine h.invariant (fun t => t.env.filter.serverCallbacks = none) ?_ hclient
  intro t t' ht hstep
  obtain ⟨k, -, -, htake, -⟩ := pass_again hstep
  exact takeOffer_serverCallbacks ht htake

/-- **When `Dispatch` on a client connection returns.**  For any bytes and any
set of active streams, as long as the header sections it gets to can be
decoded: it returns if and only if it gets to no V2 response, and to no frame
that is taken for a request under an id without a stream. -/
theorem client_dispatch_iff (w : ConnWorld ρ) (data : IoBuffer)
    (hclient : w.filter.serverCallbacks = none)
    (hdec : ∀ t, Loop.Reaches (pass order spare clock) ⟨data, w, [], []⟩ t →
      HeaderDecodable spare t) :
    (∃ fuel s', dispatch order spare clock fuel w data = some (.ok s'))
      ↔ ∀ t, Loop.Reaches (pass order spare clock) ⟨data, w, [], []⟩ t →
        ¬ Fatal order spare clock t := by
  constructor
  · rintro ⟨fuel, s', hrun⟩ t ht hfatal
    exact hfatal.not_returns (reaches_client ht hclient) s' (ht.returns ⟨fuel, hrun⟩)
  · intro hno
    -- every pass that goes on leaves fewer bytes
    have hreturns : ∃ r, Loop.Returns (pass order spare clock) ⟨data, w, [], []⟩ r := by
      refine Loop.returns_of_measure
        (fun t => Loop.Reaches (pass order spare clock) ⟨data, w, [], []⟩ t)
        (fun t => t.data.len) ?_ _ (Loop.Reaches.here _)
      intro t t' ht hstep
      refine ⟨ht.step hstep, ?_⟩
      rcases pass_client (hdec t ht) (hno t ht)
        with ⟨u, hu⟩ | ⟨u, hu, hlt⟩
      · rw [hstep] at hu
        cases hu
      · rw [hstep] at hu
        cases hu
        exact hlt
    -- and none fails
    obtain ⟨r, hr⟩ := hreturns
    have hok : ∃ s', r = .ok s' := by
      refine Loop.Returns.induction
        (P := fun t r => Loop.Reaches (pass order spare clock) ⟨data, w, [], []⟩ t →
          ∃ s', r = .ok s') ?_ ?_ ?_ hr (Loop.Reaches.here _)
      · intro t e he ht
        rcases pass_client (hdec t ht) (hno t ht)
          with ⟨u, hu⟩ | ⟨u, hu, -⟩
        · rw [he] at hu
          cases hu
        · rw [he] at hu
          cases hu
      · intro t t' _ _
        exact ⟨t', rfl⟩
      · intro t t' r hstep ih ht
        exact ih (ht.step hstep)
    obtain ⟨s', rfl⟩ := hok
    obtain ⟨fuel, hfuel⟩ := hr
    exact ⟨fuel, s', hfuel⟩

theorem offer_heartbeat_empty (order : HeaderOrder) (g : IDGenerator) :
    offer order [] g (FrameKind.requestV1.command 0 emptyHeartbeatV1)
      = .ok (some ⟨streamIDConv 7, ∅ ∪ GoMap.insertAll ∅
          (requestFields (requestCommandV1 emptyHeartbeatV1)), none⟩, g) := by
  have hv1 : (FrameKind.requestV1.command 0 emptyHeartbeatV1).isV1 = true := rfl
  rw [offer_heartbeat _ _ _ rfl, if_pos hv1]
  exact congrArg (Except.map _) (allFields_ok order _ rfl)

/-- A client connection with a stream under the id 7. -/
def clientWithStream : ConnWorld Unit :=
  ⟨⟨0⟩, ((newStreamConnection none).newStream (streamIDConv 7) ()).2⟩

theorem reaches_heartbeat {w : ConnWorld ρ}
    (h : Loop.Reaches (pass order spare clock)
      ⟨.newIoBufferBytes emptyHeartbeatV1, w, [], []⟩ t) :
    t = ⟨.newIoBufferBytes emptyHeartbeatV1, w, [], []⟩ ∨ t.data.bytes = [] := by
  refine h.invariant (fun t => t = ⟨.newIoBufferBytes emptyHeartbeatV1, w, [], []⟩
    ∨ t.data.bytes = []) ?_ (Or.inl rfl)
  rintro t t' ht hstep
  obtain ⟨k, hk, -, -, hdata⟩ := pass_again hstep
  rcases ht with rfl | hnil
  · right
    have hkind : k = .requestV1 := (Option.some.inj hk.1).symm
    rw [hdata, hk.bytes_advance (by rw [hkind]; decide), hkind]
    rfl
  · have hthree := hk.three_le
    rw [hnil] at hthree
    exact absurd hthree (by decide)

theorem client_dispatch_heartbeat :
    ∃ fuel s', dispatch GoMap.someOrder [] (fun _ => 0) fuel clientWithStream
      (.newIoBufferBytes emptyHeartbeatV1) = some (.ok s') := by
  have hempty : ∀ {b : List UInt8} {k : FrameKind}, b = [] → ¬ k.At b := by
    rintro b k rfl hk
    exact absurd hk.three_le (by decide)
  refine (client_dispatch_iff clientWithStream _ rfl ?_).mpr ?_
  · intro t ht k hk
    rcases reaches_heartbeat ht with rfl | hnil
    · have hkind : k = .requestV1 := (Option.some.inj hk.1).symm
      rw [hkind]
      exact ⟨∅, rfl⟩
    · exact absurd hk (hempty hnil)
  · rintro t ht ⟨k, hk, -, hfatal⟩
    rcases reaches_heartbeat ht with rfl | hnil
    · have hkind : k = .requestV1 := (Option.some.inj hk.1).symm
      rw [hkind] at hfatal
      rcases hfatal with h | ⟨o, g, hoffer, -, hnew⟩
      · cases h
      · -- the heartbeat goes to the stream under its request id
        have hheartbeat := hoffer.symm.trans (offer_heartbeat_empty GoMap.someOrder ⟨0⟩)
        cases hheartbeat
        rw [show clientWithStream.filter.activeStreams
          = (∅ : GoMap GoString (StreamEntry Unit)).insert (streamIDConv 7) _ from rfl,
          GoMap.lookup_insert_ite, if_pos rfl] at hnew
        cases hnew
    · exact absurd hk (hempty hnil)

/-- **A heartbeat request from the upstream crashes the proxy**, unless a
stream happens to have its request id. -/
theorem client_dispatch_panics :
    dispatch GoMap.someOrder [] (fun _ => 0) 1 ⟨⟨0⟩, newStreamConnection (ρ := Unit) none⟩
      (.newIoBufferBytes emptyHeartbeatV1) = some (.error .nilDereference) := by
  have hk : FrameKind.requestV1.At emptyHeartbeatV1 := by decide
  have htaken : TakenForRequest GoMap.someOrder [] ⟨⟨0⟩, newStreamConnection (ρ := Unit) none⟩
      (FrameKind.requestV1.command 0 emptyHeartbeatV1) := by
    refine ⟨_, _, offer_heartbeat_empty _ _, ?_, rfl⟩
    rw [← isSofaRequest_markEnd []]
    exact isSofaRequest_fields (fun _ _ => Finmap.notMem_empty) emptyHeartbeatV1 []
  have hbody : pass GoMap.someOrder [] (fun _ => 0)
      ⟨.newIoBufferBytes emptyHeartbeatV1, ⟨⟨0⟩, newStreamConnection (ρ := Unit) none⟩, [], []⟩
        = .error .nilDereference := by
    refine (decodeBody_offer _ _ _ _ hk (Or.inl rfl)).trans ?_
    exact congrArg (Except.map _) (takeOffer_panics rfl htaken)
  show Loop.run (pass GoMap.someOrder [] (fun _ => 0)) 1
    ⟨.newIoBufferBytes emptyHeartbeatV1, ⟨⟨0⟩, newStreamConnection (ρ := Unit) none⟩, [], []⟩ = _
  simp only [Loop.run, hbody]

end StreamConnection

end Mosn.Stream.SofaRpc
