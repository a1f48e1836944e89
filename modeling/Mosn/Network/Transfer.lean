/-
  Mosn.Network.Transfer
  **THE HAND-OVER OF CONNECTIONS AT A HOT UPGRADE** (`pkg/network/transfer.go`,
  `NewServerConnection` and the transfer parts of the loops in
  `pkg/network/connection.go`, `OnAccept` of `pkg/server/handler.go`).

  The old process hands a TCP connection over with `transferRead`: over a new
  unix connection it sends the descriptor and the bytes it has read.  A
  goroutine of the new process (`transferHandler`) has the connection accepted
  by another one (`OnAccept`), which makes a connection object with an id of
  its own and passes it back through a channel; the handler enters the object
  into `transferMap` and answers with the id.  What the old process has to write
  later goes with `transferWrite` over further unix connections: the handler of
  each looks the id up and writes the payload to the object.

    • §1  the messages, byte by byte,
    • §2  the two processes: any number of calls, handlers and `OnAccept`
      goroutines, step by step,
    • §3  what isolation means.

  Calls, objects and payloads are numbered in the order in which they were
  made.  A sender can fail at any byte: the receiver then has the first bytes
  of the message.
-/
import Mosn.Lib.BigEndian
import Mosn.Lib.Table
import Mosn.Lib.Transition
import Mathlib.Logic.Function.Basic

namespace Mosn.Network.Transfer

open Mosn.Lib

/-! ## §1. The messages. -/

/-- `transferBuildHead`. -/
def transferBuildHead (size id : UInt32) : List UInt8 := putUint32 size ++ putUint32 id

/-- What `transferSendData` writes. -/
def transferSendData (id : Nat) (buf : List UInt8) : List UInt8 :=
  transferBuildHead (UInt32.ofNat buf.length) (UInt32.ofNat id) ++ buf

/-- What `transferWrite` sends: the type, the header and the payload. -/
def transferWriteMsg (id : Nat) (payload : List UInt8) : List UInt8 :=
  1 :: transferSendData id payload

/-- `transferRecvMsg`, on the bytes that come before the end of the stream;
with what is left of them. -/
def transferRecvMsg (stream : List UInt8) (size : Nat) : Option (List UInt8 × List UInt8) :=
  if size ≤ stream.length then some (stream.take size, stream.drop size) else none

/-- `transferRecvHead`. -/
def transferRecvHead (stream : List UInt8) : Option ((Nat × Nat) × List UInt8) :=
  (transferRecvMsg stream 8).map fun (buf, rest) =>
    (((uint32 (slice buf 0 4)).toNat, (uint32 (slice buf 4 8)).toNat), rest)

/-- `transferRecvData`. -/
def transferRecvData (stream : List UInt8) : Option (Nat × List UInt8) :=
  (transferRecvHead stream).bind fun ((size, id), rest) =>
    (transferRecvMsg rest size).map fun (buf, _) => (id, buf)

/-- `transferSendID`. -/
def transferSendID (id : Nat) : List UInt8 := putUint32 (UInt32.ofNat id)

/-- `transferErr`. -/
def transferErr : Nat := 0

/-- `transferRecvID`. -/
def transferRecvID (stream : List UInt8) : Nat :=
  match transferRecvMsg stream 4 with
  | some (b, _) => (uint32 b).toNat
  | none => transferErr

variable {size : Nat} {stream rest : List UInt8}

theorem transferRecvMsg_append {l m : List UInt8} (h : l.length = size) :
    transferRecvMsg (l ++ m) size = some (l, m) := by
  subst h
  unfold transferRecvMsg
  rw [if_pos (by simp), List.take_left, List.drop_left]

theorem transferRecvMsg_more {buf : List UInt8}
    (h : transferRecvMsg stream size = some (buf, rest)) (more : List UInt8) :
    transferRecvMsg (stream ++ more) size = some (buf, rest ++ more) := by
  unfold transferRecvMsg at h ⊢
  obtain ⟨hle, hparts⟩ := Option.ite_none_right_eq_some.mp h
  obtain ⟨rfl, rfl⟩ := Prod.mk.inj (Option.some.inj hparts)
  rw [if_pos (by rw [List.length_append]; omega), List.take_append_of_le_length hle,
    List.drop_append_of_le_length hle]

theorem transferRecvHead_more {x : Nat × Nat}
    (h : transferRecvHead stream = some (x, rest)) (more : List UInt8) :
    transferRecvHead (stream ++ more) = some (x, rest ++ more) := by
  obtain ⟨⟨buf, rest'⟩, hmsg, hparts⟩ := Option.map_eq_some_iff.mp h
  obtain ⟨rfl, rfl⟩ := Prod.mk.inj hparts
  unfold transferRecvHead
  rw [transferRecvMsg_more hmsg more]
  rfl

theorem transferRecvData_of_take {cut : Nat} {x : Nat × List UInt8}
    (h : transferRecvData (stream.take cut) = some x) : transferRecvData stream = some x := by
  obtain ⟨⟨⟨size, id⟩, rest⟩, hhead, hdata⟩ := Option.bind_eq_some_iff.mp h
  obtain ⟨⟨buf, rest'⟩, hbuf, rfl⟩ := Option.map_eq_some_iff.mp hdata
  have hhead' := transferRecvHead_more hhead (stream.drop cut)
  rw [List.take_append_drop] at hhead'
  unfold transferRecvData
  rw [hhead']
  show (transferRecvMsg (rest ++ stream.drop cut) size).map _ = _
  rw [transferRecvMsg_more hbuf]
  rfl

theorem transferRecvData_msg (id : Nat) (payload : List UInt8) :
    transferRecvData (transferWriteMsg id payload).tail
      = some (id % 2 ^ 32, payload.take (payload.length % 2 ^ 32)) := by
  have hslice : ∀ v, slice (putUint32 v) 0 4 = putUint32 v := by
    intro v
    have hzero := slice_zero_length (putUint32 v)
    rwa [length_putUint32] at hzero
  have hhead : transferRecvHead (transferWriteMsg id payload).tail
      = some ((payload.length % 2 ^ 32, id % 2 ^ 32), payload) := by
    unfold transferRecvHead transferWriteMsg transferSendData
    rw [List.tail_cons, transferRecvMsg_append (by simp [transferBuildHead])]
    simp [transferBuildHead, hslice]
  unfold transferRecvData
  rw [hhead]
  show (transferRecvMsg payload (payload.length % 2 ^ 32)).map _ = _
  rw [transferRecvMsg, if_pos (Nat.mod_le _ _)]
  rfl

theorem transferRecvID_sendID {id : Nat} (h : id < 2 ^ 32) :
    transferRecvID (transferSendID id) = id := by
  have hmsg : transferRecvMsg (transferSendID id) 4 = some (transferSendID id, []) := by
    have hlength : (transferSendID id).length = 4 := length_putUint32 _
    have happend : transferRecvMsg (transferSendID id ++ []) 4 = some (transferSendID id, []) :=
      transferRecvMsg_append hlength
    rwa [List.append_nil] at happend
  unfold transferRecvID
  rw [hmsg]
  show (uint32 (putUint32 (UInt32.ofNat id))).toNat = id
  rw [uint32_putUint32]
  exact UInt32.toNat_ofNat_of_lt' h

theorem transferRecvID_take (id cut : Nat) :
    transferRecvID ((transferSendID id).take cut) = transferErr
      ∨ transferRecvID ((transferSendID id).take cut) = transferRecvID (transferSendID id) := by
  by_cases hcut : cut < 4
  · left
    unfold transferRecvID transferRecvMsg
    rw [if_neg (by rw [List.length_take]; omega)]
  · right
    rw [List.take_of_length_le (by simp [transferSendID]; omega)]

/-! Messages arrive in pieces: a read takes from the first one that is left, up
to the room in its buffer. -/

/-- The loop of `transferRecvMsg` over the reads, from the offset `off`; when
there is nothing left to read, the read fails. -/
def recvLoop (size : Nat) : List (List UInt8) → Nat → List UInt8 →
    Option (List UInt8 × List (List UInt8))
  | [], _, _ => none
  | piece :: reads, off, b =>
    let n := min piece.length (size - off)
    if off + n = size then
      some (b ++ piece.take n, if piece.drop n = [] then reads else piece.drop n :: reads)
    else recvLoop size reads (off + n) (b ++ piece.take n)

/-- `transferRecvMsg`, read by read. -/
def recvMsg (reads : List (List UInt8)) (size : Nat) : Option (List UInt8 × List (List UInt8)) :=
  if size = 0 then some ([], reads) else recvLoop size reads 0 []

/-- `transferRecvData`, read by read: the id, the buffer and what is left. -/
def recvData (reads : List (List UInt8)) : Option (Nat × List UInt8 × List (List UInt8)) := do
  let (head, reads) ← recvMsg reads 8
  let (buf, reads) ← recvMsg reads (uint32 (slice head 0 4)).toNat
  return ((uint32 (slice head 4 8)).toNat, buf, reads)

theorem recvLoop_eq {reads : List (List UInt8)} (hreads : [] ∉ reads) {msg later : List UInt8}
    (hmsg : msg ≠ []) : ∀ (off : Nat) (b : List UInt8), reads.flatten = msg ++ later →
    ∃ left, recvLoop (off + msg.length) reads off b = some (b ++ msg, left)
      ∧ left.flatten = later ∧ [] ∉ left := by
  have hpos := List.length_pos_iff.mpr hmsg
  induction reads generalizing msg with
  | nil =>
    intro off b hflat
    rw [List.flatten_nil, List.nil_eq, List.append_eq_nil_iff] at hflat
    exact absurd hflat.1 hmsg
  | cons piece reads ih =>
    intro off b hflat
    rw [List.flatten_cons] at hflat
    have hrest : [] ∉ reads := fun h => hreads (List.mem_cons_of_mem _ h)
    have hsize : off + msg.length - off = msg.length := by omega
    rw [recvLoop, hsize]
    rcases Nat.lt_or_ge piece.length msg.length with hlt | hge
    · -- the piece is read whole, and there is more to come
      obtain ⟨more, rfl⟩ : ∃ more, msg = piece ++ more :=
        (List.prefix_of_prefix_length_le ⟨_, hflat⟩ ⟨_, rfl⟩ (Nat.le_of_lt hlt)).imp
          fun _ h => h.symm
      rw [List.append_assoc, List.append_cancel_left_eq] at hflat
      rw [List.length_append] at hlt ⊢
      obtain ⟨left, hloop, hleft⟩ := ih hrest (List.ne_nil_of_length_pos (by omega)) (by omega)
        (off + piece.length) (b ++ piece) hflat
      refine ⟨left, ?_, hleft⟩
      rw [Nat.min_eq_left (by omega), List.take_length, if_neg (by omega), ← Nat.add_assoc, hloop,
        List.append_assoc]
    · -- the piece has the end of the message
      obtain ⟨more, rfl⟩ : ∃ more, piece = msg ++ more :=
        (List.prefix_of_prefix_length_le ⟨_, rfl⟩ ⟨_, hflat⟩ hge).imp fun _ h => h.symm
      rw [List.append_assoc, List.append_cancel_left_eq] at hflat
      rw [Nat.min_eq_right hge, if_pos rfl, List.take_left, List.drop_left]
      refine ⟨_, rfl, ?_⟩
      split
      · next hnil =>
        rw [hnil] at hflat
        exact ⟨hflat, hrest⟩
      · next hne => exact ⟨hflat, List.not_mem_cons_of_ne_of_not_mem (Ne.symm hne) hrest⟩

theorem recvMsg_eq {reads : List (List UInt8)} (hreads : [] ∉ reads) {msg later : List UInt8}
    (hflat : reads.flatten = msg ++ later) :
    ∃ left, recvMsg reads msg.length = some (msg, left) ∧ left.flatten = later ∧ [] ∉ left := by
  unfold recvMsg
  by_cases hmsg : msg = []
  · subst hmsg
    exact ⟨reads, rfl, hflat, hreads⟩
  · rw [if_neg (by simpa using hmsg)]
    have hloop := recvLoop_eq hreads hmsg 0 [] hflat
    rwa [Nat.zero_add] at hloop

theorem recvLoop_eq_none {size off : Nat} {b : List UInt8} {reads : List (List UInt8)}
    (hshort : off + reads.flatten.length < size) : recvLoop size reads off b = none := by
  induction reads generalizing off b with
  | nil => rfl
  | cons piece reads ih =>
    rw [List.flatten_cons, List.length_append] at hshort
    rw [recvLoop, Nat.min_eq_left (by omega), if_neg (by omega)]
    exact ih (by omega)

theorem recvMsg_cases {reads : List (List UInt8)} (hreads : [] ∉ reads) (size : Nat) :
    (∃ msg left, recvMsg reads size = some (msg, left) ∧ [] ∉ left
        ∧ transferRecvMsg reads.flatten size = some (msg, left.flatten))
      ∨ (recvMsg reads size = none ∧ transferRecvMsg reads.flatten size = none) := by
  unfold transferRecvMsg
  rcases Nat.lt_or_ge reads.flatten.length size with hshort | hsize
  · refine Or.inr ⟨?_, if_neg (Nat.not_le.mpr hshort)⟩
    rw [recvMsg, if_neg (by omega), recvLoop_eq_none (by omega)]
  · have hlength : (reads.flatten.take size).length = size := List.length_take_of_le hsize
    obtain ⟨left, hmsg, hleft, hne⟩ := recvMsg_eq hreads (List.take_append_drop size _).symm
    rw [hlength] at hmsg
    exact Or.inl ⟨_, left, hmsg, hne, by rw [if_pos hsize, hleft]⟩

theorem recvData_flatten {reads : List (List UInt8)} (hreads : [] ∉ reads) :
    (recvData reads).map (fun data => (data.1, data.2.1)) = transferRecvData reads.flatten := by
  unfold recvData transferRecvData transferRecvHead
  rcases recvMsg_cases hreads 8 with ⟨head, left, hhead, hne, hwhole⟩ | ⟨hhead, hwhole⟩
  · rw [hhead, hwhole]
    rcases recvMsg_cases hne (uint32 (slice head 0 4)).toNat with
      ⟨buf, left', hbuf, -, hwhole'⟩ | ⟨hbuf, hwhole'⟩
    · simp [hbuf, hwhole']
    · simp [hbuf, hwhole']
  · rw [hhead, hwhole]
    rfl

/-- **The protocol is lossless**: however the bytes are split into reads, the
receiver gets the id and the buffer, and is left with what follows them. -/
theorem transfer_lossless {id : Nat} {buf later : List UInt8} {reads : List (List UInt8)}
    (hid : id < 2 ^ 32) (hbuf : buf.length < 2 ^ 32) (hreads : [] ∉ reads)
    (hflat : reads.flatten = transferSendData id buf ++ later) :
    ∃ left, recvData reads = some (id, buf, left) ∧ left.flatten = later ∧ [] ∉ left := by
  unfold transferSendData at hflat
  rw [List.append_assoc] at hflat
  obtain ⟨left, hhead, hleft, hne⟩ := recvMsg_eq hreads hflat
  obtain ⟨left', hbuffer, hleft'⟩ := recvMsg_eq hne hleft
  refine ⟨left', ?_, hleft'⟩
  have hslice : ∀ v, slice (putUint32 v) 0 4 = putUint32 v := by
    intro v
    have hzero := slice_zero_length (putUint32 v)
    rwa [length_putUint32] at hzero
  have hsize : (UInt32.ofNat buf.length).toNat = buf.length := UInt32.toNat_ofNat_of_lt' hbuf
  have hnumber : (UInt32.ofNat id).toNat = id := UInt32.toNat_ofNat_of_lt' hid
  have height : (transferBuildHead (UInt32.ofNat buf.length) (UInt32.ofNat id)).length = 8 := by
    simp [transferBuildHead]
  rw [height] at hhead
  unfold recvData
  rw [hhead]
  simp [transferBuildHead, hslice, hsize, hnumber, hbuffer]

/-- The header in two reads, the second with the buffer and the next byte. -/
theorem transfer_lossless_two_reads :
    ∃ left, recvData [[0, 0, 0], [1, 0, 0, 0, 7, 65, 9]] = some (7, [65], left)
      ∧ left.flatten = [9] ∧ [] ∉ left :=
  transfer_lossless (by decide) (by decide) (by decide) (by decide)

/-! ## §2. The two processes. -/

/-- A connection object of the new process: its id, the `transferRead` it was
made for, and the bytes it starts with. -/
structure Object where
  id : Nat
  read : Nat
  readBuffer : List UInt8
  deriving DecidableEq

/-- The goroutine of `OnAccept`: not started; on its way to
`NewServerConnection`; it has made an object and sends it on its channel; the
object was received, and has no `filterManager` yet; it has one. -/
inductive Accepting where
  | idle
  | running
  | sending (o : Nat)
  | sent
  | done
  deriving DecidableEq

/-- An object was made. -/
def Accepting.made : Accepting → Bool
  | .idle => false
  | .running => false
  | .sending _ => true
  | .sent => true
  | .done => true

/-- The handler of a `transferRead`: it receives the request; it waits for an
object; it has received one; it has entered it into the map; it is about to
send `transferErr`; it has closed the unix connection, after these bytes. -/
inductive Handling where
  | receiving
  | waiting
  | received (o : Nat)
  | stored (o : Nat)
  | failing
  | finished (reply : List UInt8)
  deriving DecidableEq

/-- A call of `transferRead` with the two goroutines it has in the new
process, and what it returns. -/
structure Read where
  buf : List UInt8
  data : List UInt8
  accepting : Accepting
  handling : Handling
  result : Option Nat
  deriving DecidableEq

/-- The handler of a `transferWrite`: it receives the message; it has an id
and a payload; it has found an object; it is finished, with the payload
written or without; `Write` has panicked. -/
inductive Writing where
  | receiving
  | loading (id : Nat) (buf : List UInt8)
  | found (o : Nat) (buf : List UInt8)
  | finished (written : Bool)
  | panicked
  deriving DecidableEq

/-- The object that is written to next. -/
def Writing.target : Writing → Option Nat
  | .found o _ => some o
  | .receiving | .loading _ _ | .finished _ | .panicked => none

def Writing.ended : Writing → Bool
  | .finished _ | .panicked => true
  | .receiving | .loading _ _ | .found _ _ => false

/-- A call of `transferWrite`, for the connection of the `transferRead` that
returned `id`, and what of its message came through. -/
structure WriteCall where
  read : Nat
  id : Nat
  payload : List UInt8
  wire : List UInt8
  handling : Writing
  deriving DecidableEq

/-- The message was sent in full. -/
def WriteCall.complete (call : WriteCall) : Bool :=
  decide (call.wire = transferWriteMsg call.id call.payload)

/-- What arrives of the payload: its size goes as 32 bits. -/
def WriteCall.bytes (call : WriteCall) : List UInt8 :=
  call.payload.take (call.payload.length % 2 ^ 32)

/-- A call of `Write` on an object. -/
structure Written where
  object : Nat
  call : Nat
  buf : List UInt8
  deriving DecidableEq

/-- The new process: the counter of ids, the objects, `transferMap` and the
calls of `Write` by handlers, in their order; and the calls of the old
process with their handlers. -/
structure State where
  idCounter : Nat
  objects : List Object
  transferMap : Nat → Option Nat
  written : List Written
  reads : List Read
  writes : List WriteCall

namespace State

def init : State := ⟨1, [], fun _ => none, [], [], []⟩

def modifyRead (s : State) (r : Nat) (f : Read → Read) : State :=
  { s with reads := s.reads.modify r f }

def modifyWrite (s : State) (w : Nat) (f : WriteCall → WriteCall) : State :=
  { s with writes := s.writes.modify w f }

/-- The `filterManager` of an object is set: `NewServerConnection` has gone past
the send on the channel. -/
def filterManager (s : State) (o : Nat) : Bool :=
  (s.objects[o]?.bind fun obj => s.reads[obj.read]?).any fun x => decide (x.accepting = .done)

/-- What the handlers have appended to the write buffer of an object. -/
def writeBuffer (s : State) (o : Nat) : List UInt8 :=
  ((s.written.filter fun x => decide (x.object = o)).map Written.buf).flatten

end State

def Read.setAccepting (accepting : Accepting) (x : Read) : Read :=
  { x with accepting := accepting }

def Read.setHandling (handling : Handling) (x : Read) : Read := { x with handling := handling }

def Read.setResult (id : Nat) (x : Read) : Read := { x with result := some id }

def WriteCall.setHandling (handling : Writing) (call : WriteCall) : WriteCall :=
  { call with handling := handling }

/-- `transferHandler` to the call of `OnAccept`: an error of
`transferRecvType` ends it, an error of `transferRecvData` does not. -/
def Read.request (typeOk dataOk listener : Bool) (x : Read) : Read :=
  if !typeOk then { x with handling := .finished [] }
  else
    let data := if dataOk then x.buf else []
    if listener then { x with data := data, accepting := .running, handling := .waiting }
    else { x with data := data, handling := .failing }

/-- `transferRecvType` and `transferRecvData` of the handler of a
`transferWrite`. -/
def WriteCall.receive (call : WriteCall) : Writing :=
  match call.wire with
  | [] => .finished false
  | _ :: stream =>
    -- an error of `transferRecvData` is logged, and the handler goes on
    let data := (transferRecvData stream).getD (0, [])
    .loading data.1 data.2

inductive Event where
  /-- The old process calls `transferRead`. -/
  | read (buf : List UInt8)
  /-- The handler receives the request. -/
  | request (r : Nat) (typeOk dataOk listener : Bool)
  /-- `NewServerConnection`, to the send on the channel. -/
  | create (r : Nat)
  /-- The handler receives from the channel. -/
  | hand (r : Nat)
  /-- `NewServerConnection`, to its end. -/
  | finish (r : Nat)
  /-- The handler gives up after three seconds. -/
  | timeout (r : Nat)
  /-- `transferMap.Store`. -/
  | store (r : Nat)
  /-- `transferSendID`, of which `cut` bytes arrive. -/
  | reply (r cut : Nat)
  /-- `transferRead` returns, with the answer or with an error. -/
  | result (r : Nat) (ok : Bool)
  /-- Another connection is made in the new process. -/
  | other
  /-- The old process calls `transferWrite`; `cut` bytes arrive. -/
  | write (r : Nat) (payload : List UInt8) (cut : Nat)
  /-- The handler receives the message. -/
  | receive (w : Nat)
  /-- `transferFindConnection`. -/
  | load (w : Nat)
  /-- `transferWriteBuffer`. -/
  | append (w : Nat)
  deriving DecidableEq

def step (s : State) : Event → Option State
  | .read buf => some { s with reads := s.reads ++ [⟨buf, [], .idle, .receiving, none⟩] }
  | .request r typeOk dataOk listener => do
      let x ← s.reads[r]?
      if x.handling = .receiving then
        some (s.modifyRead r (Read.request typeOk dataOk listener))
      else none
  | .create r => do
      let x ← s.reads[r]?
      if x.accepting = .running then
        some { s.modifyRead r (Read.setAccepting (.sending s.objects.length)) with
          idCounter := s.idCounter + 1
          objects := s.objects ++ [⟨s.idCounter + 1, r, x.data⟩] }
      else none
  | .hand r => do
      let x ← s.reads[r]?
      match x.handling, x.accepting with
      | .waiting, .sending o =>
        some (s.modifyRead r fun x => (x.setAccepting .sent).setHandling (.received o))
      | _, _ => none
  | .finish r => do
      let x ← s.reads[r]?
      if x.accepting = .sent then some (s.modifyRead r (Read.setAccepting .done)) else none
  | .timeout r => do
      let x ← s.reads[r]?
      if x.handling = .waiting then some (s.modifyRead r (Read.setHandling .failing)) else none
  | .store r => do
      let x ← s.reads[r]?
      match x.handling with
      | .received o => do
          let obj ← s.objects[o]?
          some { s.modifyRead r (Read.setHandling (.stored o)) with
            transferMap := Function.update s.transferMap obj.id (some o) }
      | _ => none
  | .reply r cut => do
      let x ← s.reads[r]?
      match x.handling with
      | .stored o => do
          let obj ← s.objects[o]?
          some (s.modifyRead r (Read.setHandling (.finished ((transferSendID obj.id).take cut))))
      | .failing =>
        some (s.modifyRead r
          (Read.setHandling (.finished ((transferSendID transferErr).take cut))))
      | _ => none
  | .result r ok => do
      let x ← s.reads[r]?
      if x.result = none then
        match x.handling, ok with
        | .finished reply, true => some (s.modifyRead r (Read.setResult (transferRecvID reply)))
        | _, false => some (s.modifyRead r (Read.setResult transferErr))
        | _, _ => none
      else none
  | .other => some { s with idCounter := s.idCounter + 1 }
  | .write r payload cut => do
      let x ← s.reads[r]?
      let id ← x.result
      -- the write loop hands over only if its connection was taken over
      if id ≠ transferErr then
        let wire := (transferWriteMsg id payload).take cut
        some { s with writes := s.writes ++ [⟨r, id, payload, wire, .receiving⟩] }
      else none
  | .receive w => do
      let call ← s.writes[w]?
      if call.handling = .receiving then
        some (s.modifyWrite w fun call => call.setHandling call.receive)
      else none
  | .load w => do
      let call ← s.writes[w]?
      match call.handling with
      | .loading id buf =>
        match s.transferMap id with
        | some o => some (s.modifyWrite w (WriteCall.setHandling (.found o buf)))
        | none => some (s.modifyWrite w (WriteCall.setHandling (.finished false)))
      | _ => none
  | .append w => do
      let call ← s.writes[w]?
      match call.handling with
      | .found o buf =>
        if s.filterManager o then
          some { s.modifyWrite w (WriteCall.setHandling (.finished true)) with
            written := s.written ++ [⟨o, w, buf⟩] }
        -- `OnWrite` of a nil `filterManager`; `transferHandler` recovers
        else some (s.modifyWrite w (WriteCall.setHandling .panicked))
      | _ => none

def Step (s : State) (e : Event) (t : State) : Prop := step s e = some t

/-! ## §3. Isolation. -/

/-- The id leads to the object that was made for `r`. -/
def Registered (s : State) (r id : Nat) : Prop :=
  ∃ o obj, s.transferMap id = some o ∧ s.objects[o]? = some obj ∧ obj.read = r ∧ obj.id = id

/-- What was written is the payload of a call, to the object of its
`transferRead`. -/
def Owned (s : State) (x : Written) : Prop :=
  ∃ call obj, s.writes[x.call]? = some call ∧ s.objects[x.object]? = some obj
    ∧ obj.read = call.read ∧ x.buf = call.bytes

/-- **Connections are kept apart**: what a `transferWrite` brings is written to
the object that was made for the `transferRead` its id came from, once, and is
lost only in a panic when the message came in full; a handler that has not ended
can go on; each `transferRead` has one object at most; and every id that a
`transferRead` has returned is found, and leads to its object. -/
structure Isolated (s : State) : Prop where
  own : ∀ x ∈ s.written, Owned s x
  once : ∀ (w : Nat) (call : WriteCall), s.writes[w]? = some call →
    (s.written.countP fun x => decide (x.call = w))
      = if call.handling = .finished true then 1 else 0
  full : ∀ (w : Nat) (call : WriteCall), s.writes[w]? = some call → call.complete = true →
    call.handling ≠ .finished false
  goesOn : ∀ (w : Nat) (call : WriteCall), s.writes[w]? = some call →
    call.handling.ended = true
      ∨ ∃ t, Step s (.receive w) t ∨ Step s (.load w) t ∨ Step s (.append w) t
  single : ∀ (o o' : Nat) (obj obj' : Object), s.objects[o]? = some obj →
    s.objects[o']? = some obj' → obj.read = obj'.read → o = o'
  lookup : ∀ (r id : Nat) (x : Read), s.reads[r]? = some x → x.result = some id →
    id ≠ transferErr → Registered s r id

/-- A handler writes to an object that has its `filterManager`. -/
def Prepared (s : State) : Event → Prop
  | .append w => ∀ call ∈ s.writes[w]?, ∀ o ∈ call.handling.target, s.filterManager o = true
  | _ => True

/-- No payload was lost in a panic. -/
def NonePanicked (s : State) : Prop := ∀ call ∈ s.writes, call.handling ≠ .panicked

end Mosn.Network.Transfer
