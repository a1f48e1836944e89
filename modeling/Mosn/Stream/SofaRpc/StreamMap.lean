/-
  Mosn.Stream.SofaRpc.StreamMap
  **WHEN A STREAM LEAVES THE MAP.**

  A stream comes into `activeStreams` when a request is sent (`newStream`) or
  received (`onNewStreamDetected`).  It is taken out in three places:

    • a client stream when CONTENT arrives for it,
    • a client stream when a decode error is reported for it,
    • a server stream when `endStream` runs.

  An exchange can end without passing any of them: with a response that is
  over after its headers, a response that cannot be encoded, a reset.

    • `noLeak_iff` — the map holds open exchanges only, throughout a
      run, exactly when none of the three happens.
-/
import Mosn.Lib.Transition
import Mosn.Stream.SofaRpc.ClientDispatch

namespace Mosn.Protocol.SofaRpc.Offer

open Mosn.Lib Mosn.Types Mosn.Network Mosn.Stream.SofaRpc

/-! ## §1. How a response ends. -/

/-- The receiver is told that the headers are all there is. -/
def endsWithHeaders (o : Offer) : Bool := endsStream o.marked

/-- The receiver is told that the content is the end. -/
def endsWithData (o : Offer) : Bool :=
  !o.endsWithHeaders && decide (o.content.getD [] ≠ [])

theorem endsWithHeaders_empty {o : Offer} (h : o.content = some []) : o.endsWithHeaders = true := by
  have hmarked : o.marked = o.headers.insert headerStremEnd (str "yes") := by
    simp only [marked, h, markEnd, ↓reduceIte]
  have hlookup : o.marked.lookup headerStremEnd = some (str "yes") := by
    rw [hmarked]
    exact Finmap.lookup_insert _
  unfold endsWithHeaders endsStream
  rw [hlookup, Option.isSome_some, Bool.or_true]

end Mosn.Protocol.SofaRpc.Offer

namespace Mosn.Stream.SofaRpc

open Mosn.Lib Mosn.Types Mosn.Network Mosn.Protocol Mosn.Protocol.SofaRpc

variable {ρ : Type}

/-! ## §2. What receiving does to the map. -/

/-- What something received under the id `streamID` did to the map: it went to
the stream with that id, and a client stream may have been taken out; it made
a stream; it was dropped. -/
inductive MapEffect (conn conn' : StreamConnection ρ) (streamID : GoString) (removes : Bool) :
    Prop where
  | active {stream : StreamEntry ρ} :
      conn.activeStreams.lookup streamID = some stream →
      conn'.activeStreams
        = (if stream.direction = .clientStream ∧ removes = true
          then conn.activeStreams.erase stream.streamID else conn.activeStreams) →
      MapEffect conn conn' streamID removes
  | new {stream : StreamEntry ρ} :
      conn.activeStreams.lookup streamID = none → stream.streamID = streamID →
      conn'.activeStreams = conn.activeStreams.insert streamID stream →
      MapEffect conn conn' streamID removes
  | dropped :
      conn.activeStreams.lookup streamID = none → conn'.activeStreams = conn.activeStreams →
      MapEffect conn conn' streamID removes

namespace StreamConnection

variable {conn conn' : StreamConnection ρ} {o : Offer}

/-- **An offer to a stream that is there**: the stream leaves the map only
with content. -/
theorem take_active_map {stream : StreamEntry ρ}
    (hactive : conn.activeStreams.lookup o.streamID = some stream) :
    ∃ conn', filter.take (some o) conn = .ok conn'
      ∧ conn'.activeStreams
        = (if stream.direction = .clientStream ∧ o.endsWithData = true
          then conn.activeStreams.erase stream.streamID else conn.activeStreams) := by
  refine ⟨_, take_active hactive, ?_⟩
  have hdata : o.endsWithData = true ↔ endsStream o.marked = false ∧ o.content.getD [] ≠ [] := by
    simp [Offer.endsWithData, Offer.endsWithHeaders]
  simp only [hdata]
  split
  · rfl
  · exact activeStreams_deliverContent _ _ _ _

theorem take_map (h : filter.take (some o) conn = .ok conn') :
    MapEffect conn conn' o.streamID o.endsWithData := by
  cases hactive : conn.activeStreams.lookup o.streamID with
  | some stream =>
    obtain ⟨conn₁, htake, hmap⟩ := take_active_map hactive
    rw [h] at htake
    cases htake
    exact .active hactive hmap
  | none =>
    cases hreq : isSofaRequest o.marked with
    | false =>
      rw [take_unknown hreq hactive] at h
      cases h
      exact .dropped hactive rfl
    | true =>
      cases hcb : conn.serverCallbacks with
      | none =>
        rw [take_panics hreq hcb hactive] at h
        cases h
      | some receiver =>
        rw [take_new hreq hcb hactive] at h
        cases h
        exact .new hactive rfl (activeStreams_deliverContent _ _ _ _)

/-- The stream that a decode error is reported to. -/
def errorStream (err : GoError) (header : Option HeaderMap) : Option GoString :=
  if err.text = unSupportedProCode ∨ err.text = unKnownCmdcode ∨ err.text = unKnownReqtype then
    none
  else if err.text = codecException then
    header.bind (·.lookup (sofaPropertyHeader headerReqID))
  else none

theorem errorStream_none (err : GoError) : errorStream err none = none := by
  unfold errorStream
  split
  · rfl
  · split <;> rfl

variable {streamID : GoString} {err : GoError} {header : Option HeaderMap}

theorem onNewStreamDetected_map {headers headers' : HeaderMap}
    (h : conn.onNewStreamDetected streamID headers = .ok (conn', headers')) :
    (∃ stream, conn.activeStreams.lookup streamID = some stream ∧ conn' = conn)
      ∨ conn.activeStreams.lookup streamID = none
        ∧ ∃ stream : StreamEntry ρ, stream.streamID = streamID
          ∧ stream.direction = .serverStream
          ∧ conn'.activeStreams = conn.activeStreams.insert streamID stream := by
  unfold onNewStreamDetected at h
  split at h
  next hsome =>
      grind [Option.isSome_iff_exists]
  next hnone =>
      right
      cases hcb : conn.serverCallbacks with
      | none =>
        simp only [hcb] at h
        cases h
      | some receiver =>
        simp only [hcb] at h
        cases h
        exact ⟨Option.not_isSome_iff_eq_none.mp hnone, _, rfl, rfl, rfl⟩

theorem onDecodeError_unreported
    (hnone : errorStream err header = none) (h : conn.onDecodeError err header = .ok conn') :
    conn'.activeStreams = conn.activeStreams := by
  unfold errorStream at hnone
  unfold onDecodeError at h
  split at h
  next =>
      cases h
      rfl
  next hclose =>
      rw [if_neg hclose] at hnone
      split at h
      next hcodec =>
          rw [if_pos hcodec] at hnone
          cases header with
          | none =>
            cases h
            rfl
          | some headers => grind
      next =>
          cases h
          rfl

/-- The stream that is told is made first, if need be, and leaves the map
afterwards if it is a client's. -/
theorem onDecodeError_reported (hstream : errorStream err header = some streamID)
    (h : conn.onDecodeError err header = .ok conn') :
    ∃ headers headers₁ conn₁, conn.onNewStreamDetected streamID headers = .ok (conn₁, headers₁)
      ∧ ∀ stream, conn₁.activeStreams.lookup streamID = some stream →
        conn'.activeStreams = if stream.direction = .clientStream
          then conn₁.activeStreams.erase stream.streamID else conn₁.activeStreams := by
  unfold errorStream at hstream
  unfold onDecodeError at h
  split at hstream
  next => cases hstream
  next hclose =>
      rw [if_neg hclose] at h
      split at hstream
      next hcodec =>
          rw [if_pos hcodec] at h
          obtain ⟨headers, rfl, hlookup⟩ := Option.bind_eq_some_iff.mp hstream
          simp only [Option.bind_some, hlookup, Option.map_some, bind_eq_ok] at h
          obtain ⟨⟨conn₁, headers₁⟩, hdetect, h⟩ := h
          refine ⟨headers, headers₁, conn₁, hdetect, fun stream hactive => ?_⟩
          simp only [hactive] at h
          split at h
          next hclient =>
              cases h
              rw [if_pos hclient]
              rfl
          next hserver =>
              cases h
              rw [if_neg hserver]
              rfl
      next => cases hstream

/-- **A decode error** for a client stream takes it out of the map. -/
theorem onDecodeError_map (hstream : errorStream err header = some streamID)
    (h : conn.onDecodeError err header = .ok conn') : MapEffect conn conn' streamID true := by
  obtain ⟨headers, headers₁, conn₁, hdetect, hmap'⟩ := onDecodeError_reported hstream h
  rcases onNewStreamDetected_map hdetect
    with ⟨stream, hactive, rfl⟩ | ⟨hnew, stream, hkey, hserver, hmap⟩
  · refine .active hactive ?_
    rw [hmap' stream hactive]
    simp only [and_true]
  · -- the stream just made is a server stream, so it stays
    have hlookup : conn₁.activeStreams.lookup streamID = some stream := by
      rw [hmap]
      exact Finmap.lookup_insert _
    have hstays := hmap' stream hlookup
    rw [hserver, if_neg (by decide)] at hstays
    exact .new hnew hkey (hstays.trans hmap)

end StreamConnection

/-! ## §3. A connection over its whole life. -/

/-- A connection, every stream made on it as its holder has it, and the open
exchanges: `opened` gives, for a stream id, the position in `streams` of the
last stream made under it, unless its exchange is over. -/
structure Exchanges (ρ : Type) where
  world : ConnWorld ρ
  streams : List Sender
  opened : GoMap GoString Nat

/-- What can happen on a connection, with the accidents of each event: the
order in which a map is iterated, the memory behind a header section, the
encoder's buffer pool. -/
inductive MapEvent (ρ : Type) where
  /-- A request is about to be sent. -/
  | newStream (streamID : GoString) (responseDecoder : ρ)
  /-- A command was decoded. -/
  | received (cmd : Command) (order : HeaderOrder) (spare : List UInt8)
  /-- Decoding failed. -/
  | decodeError (err : GoError) (header : Option HeaderMap)
  /-- The calls on the `i`-th stream. -/
  | appendHeaders (i : Nat) (order : HeaderOrder) (pool : Option SlabPool)
      (headers : Headers) (isEnd : Bool)
  | appendData (i : Nat) (data : List UInt8) (isEnd : Bool)
  | appendTrailers (i : Nat)
  | resetStream (i : Nat)
  /-- Other connections have moved the id generator. -/
  | issued (g : IDGenerator)

namespace Exchanges

/-- A new connection. -/
def init (g : IDGenerator) (serverCallbacks : Option (Nat → ρ)) : Exchanges ρ :=
  ⟨⟨g, newStreamConnection serverCallbacks⟩, [], ∅⟩

/-- The streams in the map. -/
abbrev active (x : Exchanges ρ) : GoMap GoString (StreamEntry ρ) := x.world.filter.activeStreams

/-- A stream is made: its exchange is open. -/
def made (x : Exchanges ρ) (s : Sender) (w : ConnWorld ρ) : Exchanges ρ :=
  { world := w
    streams := x.streams ++ [s]
    opened := x.opened.insert s.streamID x.streams.length }

/-- The exchange of the `i`-th stream is over. -/
def finish (x : Exchanges ρ) (i : Nat) (streamID : GoString) : GoMap GoString Nat :=
  if x.opened.lookup streamID = some i then x.opened.erase streamID else x.opened

/-- Something was received under an id: it went to the stream that is there,
and may have completed a response, or it may have made a stream. -/
def observe (x : Exchanges ρ) (w : ConnWorld ρ) (streamID : GoString)
    (completes : Bool) : Exchanges ρ :=
  match x.active.lookup streamID, w.filter.activeStreams.lookup streamID with
  | some stream, _ =>
    { x with
      world := w
      opened := if stream.direction = .clientStream ∧ completes = true
        then x.opened.erase streamID else x.opened }
  | none, some stream =>
    x.made ⟨stream.streamID, stream.requestID, stream.direction, none, none⟩ w
  | none, none => { x with world := w }

/-- A call on the `i`-th stream has left its sender as `s`.  A server stream
has its response sent with the call that ends it. -/
def sent (x : Exchanges ρ) (i : Nat) (s : Sender) (conn : StreamConnection ρ) (isEnd : Bool) :
    Exchanges ρ :=
  { world := { x.world with filter := conn }
    streams := x.streams.set i s
    opened := if s.direction = .serverStream ∧ isEnd = true then x.finish i s.streamID
      else x.opened }

theorem world_observe (x : Exchanges ρ) (w : ConnWorld ρ) (streamID : GoString)
    (completes : Bool) : (x.observe w streamID completes).world = w := by
  unfold observe
  split <;> rfl

end Exchanges

/-- The registry's encoder. -/
def encoder (ρ : Type) (order : HeaderOrder) (pool : Option SlabPool) :
    Headers → EncodeResult :=
  (StreamConnection.protocols (ρ := ρ) order []).encodeHeaders order pool

/-- The steps of a connection; what panics is no step. -/
inductive MapStep : Exchanges ρ → MapEvent ρ → Exchanges ρ → Prop where
  | newStream {x : Exchanges ρ} {streamID : GoString} {responseDecoder : ρ} :
      MapStep x (.newStream streamID responseDecoder)
        (x.made (x.world.filter.newStream streamID responseDecoder).1
          { x.world with filter := (x.world.filter.newStream streamID responseDecoder).2 })
  | received {x : Exchanges ρ} {cmd : Command} {order : HeaderOrder}
      {spare : List UInt8} {o : Offer} {g : IDGenerator} {conn : StreamConnection ρ} :
      offer order spare x.world.generator cmd = .ok (some o, g) →
      StreamConnection.filter.take (some o) x.world.filter = .ok conn →
      MapStep x (.received cmd order spare)
        (x.observe ⟨g, conn⟩ o.streamID (o.endsWithHeaders || o.endsWithData))
  | ignored {x : Exchanges ρ} {cmd : Command} {order : HeaderOrder}
      {spare : List UInt8} {g : IDGenerator} :
      offer order spare x.world.generator cmd = .ok (none, g) →
      MapStep x (.received cmd order spare) { x with world := { x.world with generator := g } }
  | decodeError {x : Exchanges ρ} {err : GoError} {header : Option HeaderMap}
      {conn : StreamConnection ρ} :
      x.world.filter.onDecodeError err header = .ok conn →
      StreamConnection.errorStream err header = none →
      MapStep x (.decodeError err header) { x with world := { x.world with filter := conn } }
  | decodeErrorOf {x : Exchanges ρ} {err : GoError} {header : Option HeaderMap}
      {conn : StreamConnection ρ} {streamID : GoString} :
      x.world.filter.onDecodeError err header = .ok conn →
      StreamConnection.errorStream err header = some streamID →
      MapStep x (.decodeError err header)
        (x.observe { x.world with filter := conn } streamID true)
  | appendHeaders {x : Exchanges ρ} {i : Nat} {order : HeaderOrder}
      {pool : Option SlabPool} {headers : Headers} {isEnd : Bool} {s : Sender}
      {a : StreamConnection.Appended ρ} :
      x.streams[i]? = some s →
      x.world.filter.appendHeaders (encoder ρ order pool) s headers isEnd = .ok a →
      MapStep x (.appendHeaders i order pool headers isEnd) (x.sent i a.sender a.conn isEnd)
  | appendData {x : Exchanges ρ} {i : Nat} {data : List UInt8} {isEnd : Bool} {s : Sender} :
      x.streams[i]? = some s →
      MapStep x (.appendData i data isEnd)
        (x.sent i (x.world.filter.appendData s data isEnd).1
          (x.world.filter.appendData s data isEnd).2 isEnd)
  | appendTrailers {x : Exchanges ρ} {i : Nat} {s : Sender} :
      x.streams[i]? = some s →
      MapStep x (.appendTrailers i) (x.sent i s (x.world.filter.endStream s) true)
  -- `ResetStream` tells the stream's listeners and leaves the connection alone
  | resetStream {x : Exchanges ρ} {i : Nat} {s : Sender} :
      x.streams[i]? = some s →
      MapStep x (.resetStream i) { x with opened := x.finish i s.streamID }
  | issued {x : Exchanges ρ} {g : IDGenerator} :
      MapStep x (.issued g) { x with world := { x.world with generator := g } }

/-! ## §4. What `Dispatch` does is a run. -/

section Dispatch

variable {order : HeaderOrder} {spare : List UInt8} {clock : Nat → Int}

variable {x : Exchanges ρ}

theorem MapStep.of_takeOffer {cmd : Command} {w : ConnWorld ρ}
    (h : takeOffer StreamConnection.filter order spare cmd x.world = .ok w) :
    ∃ y, MapStep x (.received cmd order spare) y ∧ y.world = w := by
  simp only [takeOffer, bind_eq_ok, pure, Except.pure, Except.ok.injEq] at h
  obtain ⟨⟨o, g⟩, hoffer, conn, htake, rfl⟩ := h
  cases o with
  | none =>
    cases htake
    exact ⟨_, .ignored hoffer, rfl⟩
  | some o =>
    exact ⟨_, .received hoffer htake, Exchanges.world_observe _ _ _ _⟩

theorem reaches_run {s t : ConnLoop ρ}
    (h : Loop.Reaches (StreamConnection.pass order spare clock) s t)
    (hx : x.world = s.env) : ∃ es y, Run MapStep x es y ∧ y.world = t.env := by
  refine h.invariant (fun t => ∃ es y, Run MapStep x es y ∧ y.world = t.env) ?_
    ⟨[], x, .nil, hx⟩
  rintro t t' ⟨es, y, hrun, hy⟩ hstep
  obtain ⟨k, -, -, htake, -⟩ := StreamConnection.pass_again hstep
  rw [← hy] at htake
  obtain ⟨z, hz, hw⟩ := MapStep.of_takeOffer htake
  exact ⟨_, z, hrun.snoc hz, hw⟩

/-- **A `Dispatch` that returns is a run.** -/
theorem dispatch_run {data : IoBuffer} {fuel : Nat}
    {s' : ConnLoop ρ}
    (h : StreamConnection.dispatch order spare clock fuel x.world data = some (.ok s')) :
    ∃ es y, Run MapStep x es y ∧ y.world = s'.env := by
  have hreturns : Loop.Returns (StreamConnection.pass order spare clock)
      ⟨data, x.world, [], []⟩ (.ok s') := ⟨fuel, h⟩
  obtain ⟨t, ht, hlast⟩ := hreturns.last
  obtain ⟨es, y, hrun, hy⟩ := reaches_run ht rfl
  rcases StreamConnection.pass_ok hlast with ⟨_, _, heq, -⟩ | ⟨_, heq, henv | ⟨e, henv⟩⟩
    <;> cases heq
  · exact ⟨es, y, hrun, hy.trans henv.symm⟩
  · rw [← hy] at henv
    simp only [StreamConnection.reportDecodeError, bind_eq_ok, pure, Except.pure,
      Except.ok.injEq] at henv
    obtain ⟨conn, hconn, hw⟩ := henv
    exact ⟨_, _, hrun.snoc (.decodeError hconn (StreamConnection.errorStream_none e)), hw⟩

/-- A whole request on a new server connection: one pass hands it over, the
next finds no bytes. -/
theorem dispatch_run_request :
    ∃ fuel s' es, ∃ y : Exchanges Nat, StreamConnection.dispatch GoMap.someOrder [] (fun _ => 0)
        fuel (serverStart oneHeaderRequest).env (.newIoBufferBytes oneHeaderRequest)
          = some (.ok s')
      ∧ s'.env.generator = ⟨1⟩
      ∧ Run MapStep ⟨(serverStart oneHeaderRequest).env, [], ∅⟩ es y ∧ y.world = s'.env := by
  have htake := StreamConnection.take_new
    (o := requestOffer ⟨0⟩ oneHeaderRequest oneHeader)
    ((oneHeaderRequest_accepted.isSofaRequest _).trans (decide_eq_true (by decide)))
    (rfl : (serverStart oneHeaderRequest).env.filter.serverCallbacks = some fun n => n) rfl
  obtain ⟨s', hpass, henv⟩ := AcceptedRequest.pass (s := serverStart oneHeaderRequest)
    GoMap.someOrder (fun _ => 0) oneHeaderRequest_accepted htake
  obtain ⟨k, hk, -, -, hdata⟩ := StreamConnection.pass_again hpass
  have hkind : k = .requestV1 := (Option.some.inj hk.1).symm
  have hnil : s'.data.bytes = [] := by
    rw [hdata, hk.bytes_advance (by rw [hkind]; decide), hkind]
    decide
  have hdone : StreamConnection.pass GoMap.someOrder [] (fun _ => 0) s' = .ok (.done s') := by
    refine if_neg ?_
    rw [← IoBuffer.length_bytes, hnil]
    decide
  obtain ⟨fuel, hfuel⟩ := Loop.Returns.of_again hpass (Loop.Returns.of_done hdone)
  obtain ⟨es, y, hrun⟩ :=
    dispatch_run (x := ⟨(serverStart oneHeaderRequest).env, [], ∅⟩) hfuel
  exact ⟨fuel, s', es, y, hfuel, by rw [henv]; rfl, hrun⟩

end Dispatch

/-! ## §5. The map and the open exchanges. -/

theorem StreamConnection.activeStreams_endStream (conn : StreamConnection ρ) (s : Sender) :
    (conn.endStream s).activeStreams
      = if s.direction = .serverStream then conn.activeStreams.erase s.streamID
        else conn.activeStreams := by
  unfold endStream
  grind

/-- Every stream of the map is under its own id. -/
@[local grind]
def Keyed (streams : GoMap GoString (StreamEntry ρ)) : Prop :=
  ∀ streamID stream, streams.lookup streamID = some stream → stream.streamID = streamID

namespace Keyed

variable {streams : GoMap GoString (StreamEntry ρ)} {streamID : GoString}

theorem insert (h : Keyed streams) {stream : StreamEntry ρ} (hid : stream.streamID = streamID) :
    Keyed (streams.insert streamID stream) := by
  intro k e hk
  grind [GoMap.lookup_insert_ite]

theorem erase (h : Keyed streams) : Keyed (streams.erase streamID) := by
  intro k e hk
  rw [GoMap.lookup_erase_ite] at hk
  split at hk
  · cases hk
  · exact h k e hk

theorem effect {conn conn' : StreamConnection ρ} {removes : Bool} (h : Keyed conn.activeStreams)
    (heff : MapEffect conn conn' streamID removes) : Keyed conn'.activeStreams := by
  cases heff with
  | active hactive hmap =>
    rw [hmap]
    split
    · exact h.erase
    · exact h
  | new hnew hid hmap =>
    rw [hmap]
    exact h.insert hid
  | dropped hnew hmap =>
    rw [hmap]
    exact h

theorem endStream {conn : StreamConnection ρ} (h : Keyed conn.activeStreams) (s : Sender) :
    Keyed (conn.endStream s).activeStreams := by
  rw [StreamConnection.activeStreams_endStream]
  split
  · exact h.erase
  · exact h

end Keyed

theorem MapStep.keyed {x y : Exchanges ρ} {e : MapEvent ρ} (h : Keyed x.active)
    (hstep : MapStep x e y) : Keyed y.active := by
  cases hstep with
  | newStream => exact h.insert rfl
  | received hoffer htake =>
    rw [Exchanges.active, Exchanges.world_observe]
    exact h.effect (StreamConnection.take_map htake)
  | ignored | resetStream | issued => exact h
  | @decodeError _ _ conn herr hnone =>
    show Keyed conn.activeStreams
    rw [StreamConnection.onDecodeError_unreported hnone herr]
    exact h
  | decodeErrorOf herr hsome =>
    rw [Exchanges.active, Exchanges.world_observe]
    exact h.effect (StreamConnection.onDecodeError_map hsome herr)
  | @appendHeaders _ _ _ _ isEnd s a hs ha =>
    show Keyed a.conn.activeStreams
    obtain ⟨result, _, -, rfl⟩ := appendHeaders_ok ha
    cases result with
    | error e => exact h
    | ok buf =>
      cases isEnd with
      | true => exact h.endStream _
      | false => exact h
  | @appendData _ data isEnd s hs =>
    show Keyed (x.world.filter.appendData s data isEnd).2.activeStreams
    unfold StreamConnection.appendData
    split
    · exact h.endStream _
    · exact h
  | appendTrailers hs => exact h.endStream _

/-- **No leak**: the map holds the streams of open exchanges only. -/
@[local grind]
def NoLeak (x : Exchanges ρ) : Prop := ∀ streamID ∈ x.active, streamID ∈ x.opened

namespace NoLeak

variable {x : Exchanges ρ} {streamID : GoString}

theorem observe (h : NoLeak x) (hkeyed : Keyed x.active) {w : ConnWorld ρ}
    {completes removes : Bool} (heff : MapEffect x.world.filter w.filter streamID removes)
    (hclean : ∀ stream, x.active.lookup streamID = some stream →
      stream.direction = .clientStream → completes = true → removes = true) :
    NoLeak (x.observe w streamID completes) := by
  unfold NoLeak Exchanges.active
  rw [Exchanges.world_observe]
  intro k hk
  unfold Exchanges.observe
  cases heff with
  | @active stream hactive hmap =>
    rw [hmap] at hk
    simp only [Exchanges.active, hactive]
    split
    next hover =>
        have hremoves := hclean stream hactive hover.1 hover.2
        rw [if_pos ⟨hover.1, hremoves⟩, hkeyed _ _ hactive, Finmap.mem_erase] at hk
        exact Finmap.mem_erase.mpr ⟨hk.1, h k hk.2⟩
    next =>
        split at hk
        · exact h k (Finmap.mem_erase.mp hk).2
        · exact h k hk
  | @new stream hnew hid hmap =>
    have hlookup : w.filter.activeStreams.lookup streamID = some stream := by
      rw [hmap]
      exact Finmap.lookup_insert _
    simp only [Exchanges.active, hnew, hlookup, Exchanges.made]
    rw [hmap, Finmap.mem_insert] at hk
    rw [hid, Finmap.mem_insert]
    exact hk.imp_right (h k)
  | dropped hnew hmap =>
    rw [hmap] at hk
    simp only [Exchanges.active, hnew, hmap]
    exact h k hk

theorem finish (h : NoLeak x) {i : Nat}
    (hclean : ¬ (x.opened.lookup streamID = some i ∧ streamID ∈ x.active)) :
    ∀ k ∈ x.active, k ∈ x.finish i streamID := by
  intro k hk
  unfold Exchanges.finish
  split
  next hopen =>
      refine Finmap.mem_erase.mpr ⟨?_, h k hk⟩
      rintro rfl
      exact hclean ⟨hopen, hk⟩
  next => exact h k hk

theorem finish_erase (h : NoLeak x) (i : Nat) :
    ∀ k ∈ x.active.erase streamID, k ∈ x.finish i streamID := by
  intro k hk
  rw [Finmap.mem_erase] at hk
  unfold Exchanges.finish
  split
  · exact Finmap.mem_erase.mpr ⟨hk.1, h k hk.2⟩
  · exact h k hk.2

theorem sent (h : NoLeak x) (i : Nat) {s s' : Sender} (hid : s'.streamID = s.streamID)
    (hdir : s'.direction = s.direction) (isEnd : Bool) :
    NoLeak (x.sent i s' (if isEnd then x.world.filter.endStream s else x.world.filter) isEnd) := by
  unfold NoLeak
  show ∀ k ∈ (if isEnd = true then x.world.filter.endStream s
    else x.world.filter).activeStreams, k ∈ (if s'.direction = .serverStream ∧ isEnd = true
      then x.finish i s'.streamID else x.opened)
  rw [hid, hdir]
  cases isEnd with
  | false => grind
  | true =>
    rw [if_pos rfl, StreamConnection.activeStreams_endStream]
    by_cases hserver : s.direction = .serverStream
    · rw [if_pos hserver, if_pos ⟨hserver, rfl⟩]
      exact h.finish_erase i
    · rw [if_neg hserver, if_neg (fun hboth => hserver hboth.1)]
      exact h

end NoLeak

/-- **The ways to leak a stream**, in the state in which the event happens. -/
inductive Leaks (x : Exchanges ρ) : MapEvent ρ → Prop where
  /-- A response to a client stream is over after its headers: it has no
  content, or is a heartbeat's, or says so. -/
  | headersOnly {cmd : Command} {order : HeaderOrder} {spare : List UInt8}
      {o : Offer} {g : IDGenerator} {stream : StreamEntry ρ} :
      offer order spare x.world.generator cmd = .ok (some o, g) →
      x.active.lookup o.streamID = some stream → stream.direction = .clientStream →
      o.endsWithHeaders = true → Leaks x (.received cmd order spare)
  /-- A response without content to a server stream cannot be encoded. -/
  | notEncoded {i : Nat} {order : HeaderOrder} {pool : Option SlabPool}
      {headers left : Headers} {s : Sender} {err : GoError} :
      x.streams[i]? = some s → s.direction = .serverStream →
      x.opened.lookup s.streamID = some i → s.streamID ∈ x.active →
      encoder ρ order pool (encodeSterilize s headers) = .ok (.error err, left) →
      Leaks x (.appendHeaders i order pool headers true)
  /-- A stream that is in the map is reset. -/
  | reset {i : Nat} {s : Sender} :
      x.streams[i]? = some s → x.opened.lookup s.streamID = some i → s.streamID ∈ x.active →
      Leaks x (.resetStream i)

/-- **Every other event keeps the map clean.** -/
theorem NoLeak.step {x y : Exchanges ρ} {e : MapEvent ρ} (h : NoLeak x) (hkeyed : Keyed x.active)
    (hclean : ¬ Leaks x e) (hstep : MapStep x e y) : NoLeak y := by
  cases hstep with
  | @newStream streamID responseDecoder =>
    intro k hk
    rcases Finmap.mem_insert.mp hk with heq | hk
    · exact Finmap.mem_insert.mpr (Or.inl heq)
    · exact Finmap.mem_insert.mpr (Or.inr (h k hk))
  | received hoffer htake =>
    refine h.observe hkeyed (StreamConnection.take_map htake) ?_
    intro stream hactive hdir hcompletes
    rcases Bool.or_eq_true_iff.mp hcompletes with hends | hdata
    · exact absurd (.headersOnly hoffer hactive hdir hends) hclean
    · exact hdata
  | ignored hoffer => exact h
  | @decodeError _ _ conn herr hnone =>
    show ∀ k ∈ conn.activeStreams, k ∈ x.opened
    rw [StreamConnection.onDecodeError_unreported hnone herr]
    exact h
  | decodeErrorOf herr hsome =>
    exact h.observe hkeyed (StreamConnection.onDecodeError_map hsome herr) (fun _ _ _ _ => rfl)
  | @appendHeaders i _ _ _ isEnd s a hs ha =>
    obtain ⟨result, left, henc, rfl⟩ := appendHeaders_ok ha
    cases result with
    | error err =>
      show ∀ k ∈ x.active, k ∈ (if s.direction = .serverStream ∧ isEnd = true
        then x.finish i s.streamID else x.opened)
      split
      next hover =>
          obtain ⟨hserver, rfl⟩ := hover
          exact h.finish fun hboth =>
            hclean (.notEncoded hs hserver hboth.1 hboth.2 henc)
      next => exact h
    | ok buf => exact h.sent i rfl rfl isEnd
  | @appendData i data isEnd s hs => exact h.sent i rfl rfl isEnd
  | @appendTrailers i s hs => exact h.sent i rfl rfl true
  | @resetStream i s hs => exact h.finish fun hboth => hclean (.reset hs hboth.1 hboth.2)
  | issued => exact h

/-- **Each of them leaks at once**: it can happen, and the stream is then in
the map without an open exchange. -/
theorem Leaks.step {x : Exchanges ρ} {e : MapEvent ρ} (h : Leaks x e) :
    ∃ y, MapStep x e y ∧ ¬ NoLeak y := by
  cases h with
  | @headersOnly cmd order spare o g stream hoffer hactive hdir hends =>
    obtain ⟨conn, htake, hmap⟩ := StreamConnection.take_active_map hactive
    refine ⟨_, .received hoffer htake, fun hno => ?_⟩
    have hdata : o.endsWithData = false := by
      simp [Offer.endsWithData, hends]
    rw [if_neg (by rw [hdata]; simp)] at hmap
    have hin : o.streamID ∈ conn.activeStreams := by
      rw [hmap]
      exact Finmap.mem_of_lookup_eq_some hactive
    have hopen := hno o.streamID (by
      rw [Exchanges.active, Exchanges.world_observe]
      exact hin)
    simp only [Exchanges.observe, hactive, hdir, hends, Bool.true_or, and_self, ↓reduceIte,
      Finmap.mem_erase, ne_eq, not_true_eq_false, false_and] at hopen
  | @notEncoded i order pool headers left s err hs hserver hopen hin henc =>
    refine ⟨_, .appendHeaders hs (appendHeaders_eq x.world.filter true henc), fun hno => ?_⟩
    have hfinish := hno s.streamID hin
    simp only [Exchanges.sent, appended, Exchanges.finish, hserver, hopen, and_self, ↓reduceIte,
      Finmap.mem_erase, ne_eq, not_true_eq_false, false_and] at hfinish
  | @reset i s hs hopen hin =>
    refine ⟨_, .resetStream hs, fun hno => ?_⟩
    have hfinish := hno s.streamID hin
    simp only [Exchanges.finish, hopen, ↓reduceIte, Finmap.mem_erase, ne_eq, not_true_eq_false,
      false_and] at hfinish

/-- **When the map does not leak.**  Over any sequence of events on a new
connection: the map holds open exchanges only, at all times, exactly when no
response to a client stream is over after its headers, no header-only
response of a server stream fails to be encoded, and no stream that is in the
map is reset. -/
theorem noLeak_iff (g : IDGenerator) (serverCallbacks : Option (Nat → ρ)) (es : List (MapEvent ρ)) :
    EveryState MapStep NoLeak (Exchanges.init g serverCallbacks) es
      ↔ EveryStep MapStep (fun x e => ¬ Leaks x e) (Exchanges.init g serverCallbacks) es := by
  have hempty : ∀ (k : GoString) (stream : StreamEntry ρ),
      (∅ : GoMap GoString (StreamEntry ρ)).lookup k ≠ some stream := by
    intro k stream hk
    rw [Finmap.lookup_empty] at hk
    cases hk
  refine everyState_iff (fun x => Keyed x.active) ?_ ?_ ?_ ?_ ?_
  · intro x e y h hstep
    exact hstep.keyed h
  · intro k stream hk
    exact absurd hk (hempty k stream)
  · intro k hk
    exact absurd hk Finmap.notMem_empty
  · intro x e y hkeyed h hclean hstep
    exact h.step hkeyed hclean hstep
  · intro x e _ _ hleaks
    exact (not_not.mp hleaks).step

theorem headersOnly_run (x : Exchanges ρ) (responseDecoder : ρ) {cmd : Command}
    {order : HeaderOrder} {spare : List UInt8} {o : Offer} {g : IDGenerator}
    (hoffer : offer order spare x.world.generator cmd = .ok (some o, g))
    (hends : o.endsWithHeaders = true) :
    ∃ y, Run MapStep x [.newStream o.streamID responseDecoder, .received cmd order spare] y
      ∧ ¬ NoLeak y := by
  obtain ⟨t, hnew, hgenerator, hactive⟩ : ∃ t,
      MapStep x (.newStream o.streamID responseDecoder) t ∧ t.world.generator = x.world.generator
        ∧ t.active.lookup o.streamID
          = some ⟨o.streamID, o.streamID, .clientStream, responseDecoder⟩ :=
    ⟨_, .newStream, rfl, Finmap.lookup_insert _⟩
  rw [← hgenerator] at hoffer
  obtain ⟨y, hy, hleak⟩ := Leaks.step (.headersOnly hoffer hactive rfl hends)
  exact ⟨y, (Run.nil.snoc hnew).snoc hy, hleak⟩

/-- A response without class, headers and content to request 7. -/
def emptyResponseV1 : List UInt8 :=
  [1, 0, 0, 2, 1, 0, 0, 0, 7, 1, 0, 0, 0, 0, 0, 0, 0, 0, 0, 0]

/-- **A response without content leaks its stream**: the receiver is told that
the response is over, and the stream stays in the map. -/
theorem empty_response_leaks : FrameKind.responseV1.At emptyResponseV1
      ∧ ¬ EveryState MapStep NoLeak (Exchanges.init (ρ := Unit) ⟨0⟩ none)
        [.newStream (streamIDConv 7) (),
          .received (FrameKind.responseV1.command 0 emptyResponseV1) GoMap.someOrder []] := by
  refine ⟨by decide, fun hall => ?_⟩
  have hcmd : (FrameKind.responseV1.command 0 emptyResponseV1).isRequest = false := rfl
  have hid : (FrameKind.responseV1.command 0 emptyResponseV1).reqID = 7 := by decide
  have hcontent : (FrameKind.responseV1.command 0 emptyResponseV1).content = [] := rfl
  have hheaders : (FrameKind.responseV1.command 0 emptyResponseV1).headers GoMap.someOrder []
      = .ok _ := allFields_ok GoMap.someOrder _ rfl
  have hoffer := offer_rpcResponse GoMap.someOrder [] ⟨0⟩
    (show (FrameKind.responseV1.command 0 emptyResponseV1).getCmdCode = rpcResponse by decide)
  rw [hcmd, if_neg Bool.false_ne_true, hheaders, hid, hcontent] at hoffer
  obtain ⟨y, hrun, hleak⟩ := headersOnly_run (Exchanges.init (ρ := Unit) ⟨0⟩ none) () hoffer
    (Offer.endsWithHeaders_empty rfl)
  exact hleak (hall _ [] y rfl hrun)

end Mosn.Stream.SofaRpc
