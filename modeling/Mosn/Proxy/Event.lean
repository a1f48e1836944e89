/-
  Mosn.Proxy.Event
  **STREAM EVENTS AND THEIR SHARD** (`pkg/proxy/event.go`).

  Everything that happens to a downstream stream reaches the proxy as an
  event in a worker pool.  The pool picks the worker by `Source`, the number
  that the stream id spells.

  Stream ids are printed unsigned 32-bit numbers; `Source` reads them as
  signed 32-bit ones.
-/
import Mosn.Protocol.SofaRpc.Handler

namespace Mosn.Proxy

open Mosn.Lib Mosn.Types Mosn.Protocol

/-! ## §1. Events. -/

/-- `Downstream`, `Upstream`: which side of the stream the event comes from. -/
inductive Direction where
  | downstream
  | upstream
  deriving Repr, DecidableEq

/-- `types.StreamResetReason`. -/
inductive StreamResetReason where
  | connectionTermination
  | connectionFailed
  | localReset
  | overflow
  | remoteReset
  deriving Repr, DecidableEq

/-- What an event is about: the six event types without the part they share. -/
inductive EventBody where
  | start
  | stop
  | reset (reason : StreamResetReason)
  | receiveHeaders (headers : HeaderMap) (endStream : Bool)
  | receiveData (data : List UInt8) (endStream : Bool)
  | receiveTrailer (trailers : HeaderMap)

/-- An event, with its `streamEvent` part.  `κ` names the streams. -/
structure Event (κ : Type) where
  direction : Direction
  streamID : GoString
  stream : κ
  body : EventBody

/-- The two channels of a worker. -/
inductive EventType where
  | control
  | normal
  deriving Repr, DecidableEq

namespace Event

variable {κ : Type}

/-- `Type`. -/
def type (e : Event κ) : EventType :=
  match e.body with
  | .start | .stop | .reset _ => .control
  | .receiveHeaders .. | .receiveData .. | .receiveTrailer _ => .normal

/-- `Source`, `error` being the value of the panic. -/
def source (e : Event κ) : Except GoString Int :=
  let (source, err) := Strconv.parseInt e.streamID 32
  if err ≠ none then .error (str "streamID must be numeric, unexpected :" ++ e.streamID)
  else .ok source

end Event

/-! ## §2. The stream ids there are. -/

/-- The global generator after `n` ids. -/
def generatorAfter : Nat → IDGenerator
  | 0 => ⟨0⟩
  | n + 1 => (generatorAfter n).getString.2

/-- Where a downstream stream has its id from. -/
inductive IDOrigin where
  /-- `GenerateIDString`, after that many earlier calls. -/
  | generated (calls : Nat)
  /-- `StreamIDConv` of the request id of a heartbeat. -/
  | heartbeat (reqID : UInt32)

namespace IDOrigin

/-- The stream id. -/
def streamID : IDOrigin → GoString
  | generated calls => (generatorAfter calls).getString.1
  | heartbeat reqID => streamIDConv reqID

/-- The number that it spells. -/
def value : IDOrigin → UInt32
  | generated calls => UInt32.ofNat (calls + 1)
  | heartbeat reqID => reqID

end IDOrigin

theorem generatorAfter_counter (n : Nat) : (generatorAfter n).counter = UInt32.ofNat n := by
  induction n with
  | zero => rfl
  | succ n ih =>
    show (generatorAfter n).counter + 1 = _
    rw [ih, UInt32.ofNat_add]
    rfl

theorem IDOrigin.streamID_eq (o : IDOrigin) : o.streamID = streamIDConv o.value := by
  cases o with
  | generated calls =>
    show Strconv.formatUint ((generatorAfter calls).counter + 1).toNat = _
    rw [generatorAfter_counter, streamIDConv, value, UInt32.ofNat_add]
    rfl
  | heartbeat reqID => rfl

/-! ## §3. Sharding. -/

section Sharding

variable {κ : Type}

theorem Event.source_of_lt {e : Event κ} {v : UInt32} (hid : e.streamID = streamIDConv v)
    (h : v.toNat < 2 ^ 31) : e.source = .ok v.toNat := by
  unfold source
  rw [hid, streamIDConv, Strconv.parseInt_formatUint v.toNat 32 h]
  rfl

theorem Event.source_of_ge {e : Event κ} {v : UInt32} (hid : e.streamID = streamIDConv v)
    (h : 2 ^ 31 ≤ v.toNat) :
    e.source = .error (str "streamID must be numeric, unexpected :" ++ e.streamID) := by
  have herr := congrArg Prod.snd (Strconv.parseInt_formatUint_ge v.toNat 32 (by decide) h)
  rw [← streamIDConv, ← hid] at herr
  simp only [source, herr]
  rfl

/-- Every event of a stream of this id has a source, and the same one. -/
def Sharded (κ : Type) (streamID : GoString) : Prop :=
  ∃ shard : Int, ∀ e : Event κ, e.streamID = streamID → e.source = .ok shard

/-- **Events have a shard only up to half of the id range.** -/
theorem sharded_iff [Nonempty κ] (o : IDOrigin) :
    Sharded κ o.streamID ↔ o.value.toNat < 2 ^ 31 := by
  rw [o.streamID_eq]
  constructor
  · rintro ⟨shard, h⟩
    by_contra hge
    obtain ⟨k⟩ := ‹Nonempty κ›
    have hstart := h ⟨.downstream, streamIDConv o.value, k, .start⟩ rfl
    rw [Event.source_of_ge rfl (by omega)] at hstart
    cases hstart
  · intro hlt
    exact ⟨_, fun e he => Event.source_of_lt he hlt⟩

theorem sharded_heartbeat_seven : Sharded Unit (str "7") :=
  (sharded_iff (.heartbeat 7)).mpr (by decide)

/-- The start event of a heartbeat under the request id 2³¹. -/
def largeHeartbeatStart : Event Unit where
  direction := .downstream
  streamID := (IDOrigin.heartbeat 0x80000000).streamID
  stream := ()
  body := .start

/-- **`Source` panics** on it. -/
theorem source_large_heartbeat_panics : largeHeartbeatStart.source
    = .error (str "streamID must be numeric, unexpected :2147483648") := by
  decide

end Sharding

end Mosn.Proxy
