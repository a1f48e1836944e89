/-
  Mosn.Stream.SofaRpc.Isolation
  **STREAMS ON ONE SERVER CONNECTION.**

  An RPC request is filed under the next generated id, a heartbeat under the
  request id its client chose, and both in one map.  So whether the headers
  of a frame go to a receiver of their own depends on whether the id is taken.

    • `run_isolated_iff` — every frame of a run,
    • `heartbeat_joins_request` — a heartbeat delivered to the receiver of a
      request.
-/
import Mosn.Lib.Transition
import Mosn.Stream.SofaRpc.Receive

namespace Mosn.Stream.SofaRpc

open Mosn.Lib Mosn.Types Mosn.Network Mosn.Protocol Mosn.Protocol.SofaRpc
open Mosn.Protocol.Serialize

/-! ## §1. The connection as a transition system. -/

/-- A V1 RPC request or heartbeat request, with the accidents of its
reception: the iteration order of its header map, the memory behind its
header section and the clock. -/
structure ServerFrame where
  bytes : List UInt8
  order : HeaderOrder
  spare : List UInt8
  clock : Nat → Int
  frame : FrameKind.requestV1.At bytes
  cmdCode : (requestCommandV1 bytes).cmdCode = rpcRequest
    ∨ (requestCommandV1 bytes).cmdCode = heartbeat

/-- What can happen to a server connection. -/
inductive ServerEvent where
  /-- A frame is dispatched. -/
  | frame (f : ServerFrame)
  /-- A stream is answered: its `endStream` runs. -/
  | answered (s : Sender)
  /-- Other connections have moved the id generator. -/
  | issued (g : IDGenerator)

section System

variable {ρ : Type}

/-- The pass of the decode loop over one frame. -/
def framePass (f : ServerFrame) (w : ConnWorld ρ) :
    Except Panic (Next (ConnLoop ρ)) :=
  passOver f.order f.spare f.clock f.bytes w

/-- The steps of a server connection; a pass that panics is no step. -/
inductive ServerStep : ConnWorld ρ → ServerEvent → ConnWorld ρ →
    Prop where
  | frame {w : ConnWorld ρ} {f : ServerFrame}
      {s : ConnLoop ρ} :
      framePass f w = .ok (.again s) → ServerStep w (.frame f) s.env
  | answered {w : ConnWorld ρ} {s : Sender} :
      ServerStep w (.answered s) { w with filter := w.filter.endStream s }
  | issued {w : ConnWorld ρ} {g : IDGenerator} :
      ServerStep w (.issued g) { w with generator := g }

/-- The id a frame is filed under. -/
def ServerFrame.streamID (f : ServerFrame) (w : ConnWorld ρ) : GoString :=
  if (requestCommandV1 f.bytes).cmdCode = rpcRequest then w.generator.getString.1
  else streamIDConv (requestCommandV1 f.bytes).reqID

/-! ## §2. Whose receiver gets the headers. -/

/-- Headers only go to receivers created by the same calls. -/
def OwnReceiver (added : List (Callback ρ)) : Prop :=
  ∀ receiver headers isEnd, .receiveHeaders receiver headers isEnd ∈ added →
    ∃ streamID requestID, .newStream receiver streamID requestID ∈ added

/-- The frame's headers are delivered only to the receiver created for it. -/
@[local grind]
def Isolated (w : ConnWorld ρ) (f : ServerFrame) : Prop :=
  ∀ s, framePass f w = .ok (.again s) →
    ∃ added, s.env.filter.callbacks = w.filter.callbacks ++ added ∧ OwnReceiver added

/-- The frame's id is not that of an active stream, or its header section
cannot be read at all. -/
@[local grind]
def FreshID (w : ConnWorld ρ) (f : ServerFrame) : Prop :=
  ∀ m, deSerializeMap f.spare (requestCommandV1 f.bytes).headerMap ∅ = .ok m →
    w.filter.activeStreams.lookup (f.streamID w) = none

variable {headers m : HeaderMap} {isEnd : Bool} {rest : List (Callback ρ)}
  {conn conn' : StreamConnection ρ} {w : ConnWorld ρ} {f : ServerFrame}

theorem not_ownReceiver {receiver : ρ} (hrest : rest.filter Callback.isNewStream = []) :
    ¬ OwnReceiver (.receiveHeaders receiver headers isEnd :: rest) := by
  intro h
  obtain ⟨streamID, requestID, hmem⟩ := h receiver headers isEnd List.mem_cons_self
  have hnew := List.mem_filter.mpr
    ⟨(List.mem_cons.mp hmem).resolve_left (fun heq => nomatch heq),
      (rfl : Callback.isNewStream (.newStream receiver streamID requestID) = true)⟩
  rw [hrest] at hnew
  exact absurd hnew List.not_mem_nil

theorem ownReceiver_new {receiver : ρ} {streamID requestID : GoString}
    (hrest : ∀ r h e, (.receiveHeaders r h e : Callback ρ) ∉ rest) :
    OwnReceiver (.newStream receiver streamID requestID
      :: .receiveHeaders receiver headers isEnd :: rest) := by
  intro r h e hmem
  grind

theorem take_isolated {receiver : Nat → ρ}
    (hcb : conn.serverCallbacks = some receiver) (o : Offer) :
    ∃ conn' added, StreamConnection.filter.take (some o) conn = .ok conn'
      ∧ conn'.serverCallbacks = some receiver
      ∧ conn'.callbacks = conn.callbacks ++ added
      ∧ (OwnReceiver added ↔ conn.activeStreams.lookup o.streamID = none) := by
  cases hactive : conn.activeStreams.lookup o.streamID with
  | some stream =>
    obtain ⟨conn', htake, hcb', hcalls⟩ := StreamConnection.take_active_calls hactive
    grind [not_ownReceiver, filter_contentCalls]
  | none =>
    cases hreq : isSofaRequest o.marked with
    | true =>
      refine ⟨_, _, StreamConnection.take_new hreq hcb hactive, ?_,
        (StreamConnection.callbacks_deliver _ _ _ _ _).trans (List.append_assoc _ _ _), ?_⟩
      · exact (StreamConnection.serverCallbacks_deliverContent _ _ _ _).trans hcb
      · exact iff_of_true (ownReceiver_new (receiveHeaders_notMem_contentCalls _ _ _)) rfl
    | false =>
      exact ⟨conn, [], StreamConnection.take_unknown hreq hactive, hcb,
        (List.append_nil _).symm,
        iff_of_true (fun _ _ _ hmem => absurd hmem List.not_mem_nil) rfl⟩

/-- What the frame offers under the user's headers `m`. -/
def ServerFrame.offered (f : ServerFrame) (w : ConnWorld ρ) (m : HeaderMap) :
    Offer :=
  ⟨f.streamID w, requestHeaders f.bytes m,
    if (requestCommandV1 f.bytes).cmdCode = rpcRequest then some (requestCommandV1 f.bytes).content
    else none⟩

theorem ServerFrame.offer_eq (f : ServerFrame) (w : ConnWorld ρ) :
    ∃ g, offer f.order f.spare w.generator (.boltRequest (requestCommandV1 f.bytes))
      = (deSerializeMap f.spare (requestCommandV1 f.bytes).headerMap ∅).map
        fun m => (some (f.offered w m), g) := by
  have hcode : (Command.boltRequest (requestCommandV1 f.bytes)).getCmdCode = rpcRequest
      ∨ (Command.boltRequest (requestCommandV1 f.bytes)).getCmdCode = heartbeat := f.cmdCode
  have hne : heartbeat ≠ rpcRequest := by decide
  rcases hcode with hcode | hcode
  · -- an RPC request comes in under a generated id
    refine ⟨w.generator.getString.2, (offer_rpcRequest _ _ _ hcode).trans ?_⟩
    simp only [Command.getCmdCode] at hcode
    simp only [offered, streamID, hcode, Command.headers, allFields_eq, ↓reduceIte]
    cases deSerializeMap f.spare (requestCommandV1 f.bytes).headerMap ∅ <;> rfl
  · -- a heartbeat under the id its client chose
    refine ⟨w.generator, (offer_heartbeat _ _ _ hcode).trans ?_⟩
    simp only [Command.getCmdCode] at hcode
    simp only [offered, streamID, hcode, hne, Command.headers, allFields_eq, ↓reduceIte]
    cases deSerializeMap f.spare (requestCommandV1 f.bytes).headerMap ∅ <;> rfl

theorem ServerFrame.handled (f : ServerFrame) : FrameKind.requestV1.Handled f.bytes :=
  f.cmdCode.elim (FrameKind.handled_request (k := .requestV1))
    (FrameKind.handled_heartbeat (k := .requestV1))

theorem framePass_ok (hm : deSerializeMap f.spare (requestCommandV1 f.bytes).headerMap ∅ = .ok m)
    (htake : StreamConnection.filter.take (some (f.offered w m)) w.filter = .ok conn') :
    ∃ s, framePass f w = .ok (.again s) ∧ s.env.filter = conn' := by
  obtain ⟨g, hoffer⟩ := f.offer_eq w
  rw [hm] at hoffer
  exact ⟨_, decodeBody_take (k := .requestV1) f.order f.spare f.clock
    ⟨.newIoBufferBytes f.bytes, w, [], []⟩ f.frame f.handled hoffer htake, rfl⟩

theorem framePass_error {p : Panic}
    (hm : deSerializeMap f.spare (requestCommandV1 f.bytes).headerMap ∅ = .error p) :
    framePass f w = .error p := by
  obtain ⟨g, hoffer⟩ := f.offer_eq w
  rw [hm] at hoffer
  have htake : takeOffer StreamConnection.filter f.order f.spare
      (.boltRequest (requestCommandV1 f.bytes)) w = .error p := by
    unfold takeOffer
    rw [hoffer]
    rfl
  exact (decodeBody_offer f.order f.spare f.clock _ f.frame f.handled).trans
    (congrArg (Except.map _) htake)

/-- **The outcome of a frame**: either its header section cannot be read, or
the pass goes on and the id decides whose receiver was told. -/
theorem framePass_outcome (f : ServerFrame)
    {receiver : Nat → ρ} (hcb : w.filter.serverCallbacks = some receiver) :
    (∃ p, deSerializeMap f.spare (requestCommandV1 f.bytes).headerMap ∅ = .error p
        ∧ framePass f w = .error p)
      ∨ ∃ m s added, deSerializeMap f.spare (requestCommandV1 f.bytes).headerMap ∅ = .ok m
        ∧ framePass f w = .ok (.again s)
        ∧ s.env.filter.serverCallbacks = some receiver
        ∧ s.env.filter.callbacks = w.filter.callbacks ++ added
        ∧ (OwnReceiver added ↔ w.filter.activeStreams.lookup (f.streamID w) = none) := by
  cases hm : deSerializeMap f.spare (requestCommandV1 f.bytes).headerMap ∅ with
  | error p => exact Or.inl ⟨p, rfl, framePass_error hm⟩
  | ok m =>
    obtain ⟨conn', added, htake, hcb', hcalls, hown⟩ := take_isolated hcb (f.offered w m)
    obtain ⟨s, hpass, rfl⟩ := framePass_ok hm htake
    exact Or.inr ⟨m, s, added, rfl, hpass, hcb', hcalls, hown⟩

theorem frame_isolated_iff (f : ServerFrame)
    {receiver : Nat → ρ} (hcb : w.filter.serverCallbacks = some receiver) :
    Isolated w f ↔ FreshID w f := by
  rcases framePass_outcome f hcb with ⟨p, hm, hpass⟩ | ⟨m, s, added, hm, hpass, -, hcalls, hown⟩
  · grind
  · grind [List.append_cancel_left]

/-! ## §3. Runs. -/

theorem ServerStep.serverCallbacks {w' : ConnWorld ρ} {e : ServerEvent}
    {receiver : Nat → ρ} (hcb : w.filter.serverCallbacks = some receiver)
    (h : ServerStep w e w') : w'.filter.serverCallbacks = some receiver := by
  cases h with
  | @frame f s hpass =>
    rcases framePass_outcome f hcb with ⟨p, -, herr⟩ | ⟨m, s', added, -, hok, hcb', -⟩
    · rw [herr] at hpass
      cases hpass
    · rw [hok] at hpass
      cases hpass
      exact hcb'
  | @answered s =>
    exact (StreamConnection.serverCallbacks_endStream w.filter s).trans hcb
  | issued => exact hcb

/-- `P` of a frame, nothing of other events. -/
def OfFrame (P : ConnWorld ρ → ServerFrame → Prop) (w : ConnWorld ρ) :
    ServerEvent → Prop
  | .frame f => P w f
  | _ => True

/-- **Stream isolation along a run**: from a server connection, every frame of
every run is delivered only to a receiver of its own exactly when every frame
comes under an id that is not active at that moment. -/
theorem run_isolated_iff {w : ConnWorld ρ} {receiver : Nat → ρ}
    (hcb : w.filter.serverCallbacks = some receiver) (es : List ServerEvent) :
    EveryStep ServerStep (OfFrame Isolated) w es ↔ EveryStep ServerStep (OfFrame FreshID) w es := by
  refine everyStep_congr (fun w => w.filter.serverCallbacks = some receiver)
    (fun _ _ _ hcb hstep => hstep.serverCallbacks hcb) hcb ?_
  intro t e ht
  cases e with
  | frame f => exact frame_isolated_iff f ht
  | answered s => exact Iff.rfl
  | issued g => exact Iff.rfl

end System

/-- A two-way request under request id 7: no class, headers or content. -/
def emptyRequest : List UInt8 :=
  [1, 1, 0, 1, 1, 0, 0, 0, 7, 1, 0, 0, 0, 100, 0, 0, 0, 0, 0, 0, 0, 0]

/-- A heartbeat under a request id of one byte. -/
def heartbeatRequest (id : UInt8) : List UInt8 :=
  [1, 1, 0, 0, 1, 0, 0, 0, id, 1, 0, 0, 0, 100, 0, 0, 0, 0, 0, 0, 0, 0]

noncomputable def emptyRequestFrame : ServerFrame :=
  ⟨emptyRequest, GoMap.someOrder, [], fun _ => 0, by decide, Or.inl (by decide)⟩

noncomputable def heartbeatFrame : ServerFrame :=
  ⟨heartbeatRequest 1, GoMap.someOrder, [], fun _ => 0, by decide, Or.inr (by decide)⟩

noncomputable def nextHeartbeatFrame : ServerFrame :=
  ⟨heartbeatRequest 2, GoMap.someOrder, [], fun _ => 0, by decide, Or.inr (by decide)⟩

/-- A new server connection before the first id; receivers are numbered. -/
def newServer : ConnWorld Nat :=
  ⟨⟨0⟩, newStreamConnection (some (fun n => n))⟩

theorem emptyRequest_accepted : AcceptedRequest emptyRequest [] ∅ where
  frame := by decide
  cmdCode := by decide
  decodable := decodeMap_encodeMap [] [] ∅ (fun e he => absurd he List.not_mem_nil)
  plain := fun k _ => Finmap.notMem_empty

theorem emptyRequest_filed : ∃ (s : ConnLoop Nat)
    (requestID : GoString) (h : HeaderMap) (e : Bool),
    framePass emptyRequestFrame newServer = .ok (.again s)
      ∧ s.env.filter.callbacks = [.newStream 0 (str "1") requestID, .receiveHeaders 0 h e]
      ∧ s.env.filter.activeStreams
        = (∅ : GoMap GoString _).insert (str "1") ⟨str "1", requestID, .serverStream, 0⟩ := by
  have hreq := (emptyRequest_accepted.isSofaRequest []).trans (decide_eq_true (by decide))
  have htake : ∃ conn requestID h e,
      StreamConnection.filter.take (some (emptyRequestFrame.offered newServer ∅))
          newServer.filter = .ok conn
        ∧ conn.callbacks = [.newStream 0 (str "1") requestID, .receiveHeaders 0 h e]
        ∧ conn.activeStreams
          = (∅ : GoMap GoString _).insert (str "1") ⟨str "1", requestID, .serverStream, 0⟩ :=
    ⟨_, _, _, _, StreamConnection.take_new hreq rfl rfl, rfl, rfl⟩
  obtain ⟨conn, requestID, h, e, htake, hcalls, hactive⟩ := htake
  obtain ⟨s, hpass, rfl⟩ := framePass_ok (f := emptyRequestFrame) rfl htake
  exact ⟨s, requestID, h, e, hpass, hcalls, hactive⟩

/-- A request, and then a heartbeat under another id. -/
theorem run_isolated_heartbeat : EveryStep ServerStep (OfFrame Isolated) newServer
    [.frame emptyRequestFrame, .frame nextHeartbeatFrame] := by
  refine (run_isolated_iff (w := newServer) rfl _).mpr (EveryStep.cons (fun _ _ => rfl) ?_)
  intro t hstep
  refine EveryStep.cons (fun _ _ => ?_) fun _ _ => .nil
  obtain ⟨s, requestID, -, -, hpass, -, hactive⟩ := emptyRequest_filed
  cases hstep with
  | frame hpass' =>
    rw [hpass] at hpass'
    cases hpass'
    have hid : nextHeartbeatFrame.streamID s.env = str "2" :=
      (if_neg (by decide)).trans (by decide)
    rw [hactive, hid, Finmap.lookup_insert_of_ne _ (by decide)]
    rfl

/-- **A heartbeat in a stranger's stream**: the first request on a new
connection gets the generated id 1; a heartbeat whose client chose request id
1 is delivered to that request's receiver, and none is created for it. -/
theorem heartbeat_joins_request :
    ∃ (w₁ w₂ : ConnWorld Nat) (requestID : GoString) (h₁ h₂ : HeaderMap)
        (e₁ e₂ : Bool),
      ServerStep newServer (.frame emptyRequestFrame) w₁
      ∧ ServerStep w₁ (.frame heartbeatFrame) w₂
      ∧ w₁.filter.callbacks = [.newStream 0 (str "1") requestID, .receiveHeaders 0 h₁ e₁]
      ∧ w₂.filter.callbacks = w₁.filter.callbacks ++ [.receiveHeaders 0 h₂ e₂] := by
  obtain ⟨s₁, requestID, h₁, e₁, hpass₁, hcalls, hfiled⟩ := emptyRequest_filed
  have hactive : s₁.env.filter.activeStreams.lookup (str "1")
      = some ⟨str "1", requestID, .serverStream, 0⟩ := by
    rw [hfiled]
    exact Finmap.lookup_insert _
  obtain ⟨conn₂, htake₂, -, hcalls₂⟩ := StreamConnection.take_active_calls
    (o := heartbeatFrame.offered s₁.env ∅) hactive
  obtain ⟨s₂, hpass₂, rfl⟩ := framePass_ok (f := heartbeatFrame) rfl htake₂
  exact ⟨_, _, requestID, h₁, _, e₁, _, .frame hpass₁, .frame hpass₂, hcalls, hcalls₂⟩

end Mosn.Stream.SofaRpc
