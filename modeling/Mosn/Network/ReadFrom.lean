/-
  Mosn.Network.ReadFrom
  **READING INTO THE BUFFER** (`IoBuffer.ReadOnce`, `IoBuffer.ReadFrom` in
  `pkg/network/buffer/iobuffer.go`; `conn.Read` in `pkg/tls/tls.go`).

  A reader is the list of what its `Read` returns, bytes and an error, and a
  `Read` takes no more bytes than there is room for.  It writes them behind the
  used part of the buffer, where they stay unseen until the length is moved.
  `ReadOnce` looks at the error first and leaves them there; `ReadFrom` looks at
  the number of bytes first and forgets the error if there are none.
-/
import Mosn.Network.RawBuffer

namespace Mosn.Network

open Mosn.Lib

inductive ReadError where
  | timeout
  | eof
  | other (message : GoString)
  deriving DecidableEq

/-- What a `Read` returns. -/
structure Delivery where
  bytes : List UInt8
  err : Option ReadError

/-- What a method of the buffer returns, the bytes that were delivered
meanwhile, and the result of `Read` after which there was no other. -/
structure Receipt where
  buffer : RawBuffer
  n : Nat
  err : Option ReadError
  delivered : List UInt8
  last : Delivery

/-- The result after `p` was delivered first. -/
def Receipt.after (p : List UInt8) (r : Receipt) : Receipt :=
  { r with delivered := p ++ r.delivered }

namespace RawBuffer

/-! ## §1. Model. -/

/-- `MinRead`, `MaxRead`. -/
def minRead : Nat := 2 ^ 10

/-- The unread bytes are copied to the front of an array, which is not nil. -/
def moveTo (b : RawBuffer) (array : List UInt8) : RawBuffer :=
  { b with array := copyInto array 0 array.length b.bytes, len := b.size, off := 0, isNil := false }

/-- The space for a `Read`. -/
def makeSpace (b : RawBuffer) : RawBuffer :=
  let free := b.cap - b.len
  if free < minRead then
    if b.off + free < minRead then b.moveTo (List.replicate (2 * b.cap + minRead) 0)
    else b.moveTo b.array
  else b

/-- The bytes of a `Read` that there is room for. -/
def offered (b : RawBuffer) (bytes : List UInt8) : List UInt8 := bytes.take (b.cap - b.len)

/-- They are written to `b.buf[len(b.buf):cap(b.buf)]`. -/
def readInto (b : RawBuffer) (p : List UInt8) : RawBuffer :=
  { b with array := copyInto b.array b.len (b.cap - b.len) p }

/-- `b.buf = b.buf[0 : len(b.buf)+m]`. -/
def commit (b : RawBuffer) (m : Nat) : RawBuffer := { b with len := b.len + m }

/-- The loop of `ReadFrom`; `none` while it reads on. -/
def readFromLoop (b : RawBuffer) (n : Nat) : List Delivery → Option Receipt
  | [] => none
  | d :: l =>
    let b := b.makeSpace
    let p := b.offered d.bytes
    let b := (b.readInto p).commit p.length
    let n := n + p.length
    if d.err = some .eof then some ⟨b, n, none, p, d⟩
    else if p.length = 0 then some ⟨b, n, none, p, d⟩
    else
      match d.err with
      | some e => some ⟨b, n, some e, p, d⟩
      | none => (b.readFromLoop n l).map (·.after p)

/-- `ReadFrom`. -/
def readFrom (b : RawBuffer) (l : List Delivery) : Option Receipt :=
  (if b.len ≤ b.off then b.reset else b).readFromLoop 0 l

/-! ## §2. What the buffer holds. -/

/-- `b'` holds what `b` holds, and `p` behind it. -/
structure Holds (b : RawBuffer) (p : List UInt8) (b' : RawBuffer) : Prop where
  wf : b'.Wf
  bytes : b'.bytes = b.bytes ++ p

variable {b b' b'' : RawBuffer} {p q array : List UInt8} {n : Nat} {l : List Delivery}

theorem Wf.holds (h : b.Wf) : Holds b [] b := ⟨h, (List.append_nil _).symm⟩

theorem Holds.trans (h : Holds b p b') (h' : Holds b' q b'') : Holds b (p ++ q) b'' :=
  ⟨h'.wf, by rw [h'.bytes, h.bytes, List.append_assoc]⟩

theorem Holds.next (h : Holds b [] b') (h' : Holds b' p b'') : Holds b p b'' := h.trans h'

theorem Wf.emptied (h : b.Wf) : Holds b [] (if b.len ≤ b.off then b.reset else b) := by
  split
  next hempty => exact ⟨h.reset, by rw [bytes_reset, h.bytes_eq_nil hempty]; rfl⟩
  next => exact h.holds

theorem cap_moveTo (array : List UInt8) : (b.moveTo array).cap = array.length :=
  length_copyInto (Nat.le_of_eq (Nat.zero_add _))

theorem Wf.moveTo (h : b.Wf) (hfits : b.size ≤ array.length) : Holds b [] (b.moveTo array) := by
  have hsize : b.bytes.length = b.size := h.length_bytes
  have hfront := take_copyInto (Nat.zero_le array.length) (hsize ▸ hfits)
  rw [hsize, Nat.zero_add] at hfront
  refine ⟨⟨Nat.zero_le _, by rwa [cap_moveTo], nofun⟩, ?_⟩
  rw [List.append_nil]
  exact hfront

/-- **There is space, and the bytes are the same.** -/
theorem Wf.makeSpace (h : b.Wf) : Holds b [] b.makeSpace ∧ b.makeSpace.len < b.makeSpace.cap := by
  have hoff := h.off_le
  have hlen : b.len ≤ b.array.length := h.len_le
  unfold RawBuffer.makeSpace
  dsimp only
  split
  next hfree =>
    split
    next hfront =>
      -- a larger array
      have hlarger : (List.replicate (2 * b.cap + minRead) (0 : UInt8)).length
          = 2 * b.array.length + 1024 := List.length_replicate
      refine ⟨h.moveTo ?_, ?_⟩
      · rw [hlarger, size]
        omega
      · rw [cap_moveTo, hlarger]
        show b.len - b.off < _
        omega
    next hfront =>
      -- the bytes move to the front of the same array
      simp only [cap, minRead] at hfree hfront
      refine ⟨h.moveTo ?_, ?_⟩
      · rw [size]
        omega
      · rw [cap_moveTo]
        show b.len - b.off < _
        omega
  next hfree =>
    simp only [cap, minRead] at hfree
    exact ⟨h.holds, by rw [cap]; omega⟩

theorem Wf.cap_readInto (h : b.Wf) : (b.readInto p).cap = b.cap :=
  length_copyInto (Nat.le_of_eq (Nat.add_sub_cancel' h.len_le))

theorem Wf.readInto (h : b.Wf) (p : List UInt8) : Holds b [] (b.readInto p) := by
  have hlen : b.len ≤ b.array.length := h.len_le
  refine ⟨⟨h.off_le, ?_, fun hnil => h.cap_readInto.trans (h.nil_cap hnil)⟩, ?_⟩
  · rw [h.cap_readInto]
    exact hlen
  · show (List.take b.len (copyInto ..)).drop b.off = _
    unfold copyInto
    rw [List.append_nil, List.append_assoc, List.take_append_of_le_length (by simp [hlen]),
      List.take_take, Nat.min_self]
    rfl

theorem Wf.commit (h : b.Wf) (hp : p.length ≤ b.cap - b.len) :
    Holds b p ((b.readInto p).commit p.length) := by
  have hoff := h.off_le
  have hlen : b.len ≤ b.array.length := h.len_le
  have hcap : ((b.readInto p).commit p.length).cap = b.cap := h.cap_readInto
  refine ⟨⟨Nat.le_add_right_of_le hoff, ?_, fun hnil => hcap.trans (h.nil_cap hnil)⟩, ?_⟩
  · rw [hcap]
    show b.len + p.length ≤ b.cap
    have := h.len_le
    omega
  · show (List.take (b.len + p.length) (copyInto ..)).drop b.off = _
    rw [take_copyInto hlen hp, List.drop_append_of_le_length (by simp [hlen, hoff])]
    rfl

/-! ## §3. `ReadOnce`. -/

/-- `&IoBuffer{}`. -/
def zero : RawBuffer := ⟨[], 0, 0, 0, true⟩

/-- The loop ends with a result like this. -/
def ends (d : Delivery) : Bool := decide (d.err ≠ none) || decide (d.bytes = [])

end RawBuffer

end Mosn.Network
