/-
  Mosn.Network.IoBuffer
  **THE READ/WRITE BUFFER** (`pkg/network/buffer/iobuffer.go`).

  `buf` is the used part of the backing array, `cap` the size of the array,
  `off` the read offset.  The two bounds every method relies on
  (`off ≤ len(buf) ≤ cap`) are fields, so a buffer that violates them cannot
  be built.  The capacity decides which growth path `Append` and `Write`
  take; `bytes_append` and `bytes_write` say that all paths agree on what a
  reader sees.  `bytes_readFrom` says that a source is read to its end, in
  whatever pieces it comes.
-/
import Mathlib.Algebra.Ring.Nat
import Mosn.Lib.Loop

namespace Mosn.Network

open Mosn.Lib

/-- `IoBuffer`.  `isNil` tells a nil `buf` from an empty one. -/
structure IoBuffer where
  buf : List UInt8
  cap : Nat
  off : Nat
  offMark : Int
  isNil : Bool
  off_le : off ≤ buf.length
  len_le : buf.length ≤ cap
  deriving DecidableEq

namespace IoBuffer

/-- `ResetOffMark`. -/
def resetOffMark : Int := -1

/-- `len(b.bootstrap)`. -/
def bootstrapLen : Nat := 64

/-! ## §1. Construction and reading. -/

/-- `NewIoBuffer`: an empty buffer of the given capacity. -/
def newIoBuffer (capacity : Int) : Except Panic IoBuffer :=
  if capacity < 0 then .error .makeSlice
  else .ok
    { buf := [], cap := capacity.toNat, off := 0, offMark := resetOffMark,
      isNil := false, off_le := Nat.le_refl 0, len_le := Nat.zero_le _ }

/-- `NewIoBufferBytes`: a buffer around given bytes. -/
def newIoBufferBytes (bytes : List UInt8) : IoBuffer :=
  { buf := bytes, cap := bytes.length, off := 0, offMark := resetOffMark,
    isNil := bytes.isEmpty, off_le := Nat.zero_le _, len_le := Nat.le_refl _ }

/-- `Bytes`: the unread bytes. -/
def bytes (b : IoBuffer) : List UInt8 := b.buf.drop b.off

/-- `Len`: the number of unread bytes. -/
def len (b : IoBuffer) : Nat := b.buf.length - b.off

/-- `Reset`. -/
def reset (b : IoBuffer) : IoBuffer :=
  { b with buf := [], off := 0, offMark := resetOffMark,
           off_le := Nat.le_refl 0, len_le := Nat.zero_le _ }

/-- `Drain`: skip `offset` unread bytes; too large an offset is ignored. -/
def drain (b : IoBuffer) (offset : Nat) : IoBuffer :=
  if h : b.buf.length < b.off + offset then b
  else { b with off := b.off + offset, offMark := resetOffMark,
                off_le := Nat.le_of_not_lt h }

variable (b : IoBuffer) (n : Nat) (p : List UInt8)

theorem length_bytes : b.bytes.length = b.len := List.length_drop

@[simp] theorem bytes_newIoBufferBytes (l : List UInt8) : (newIoBufferBytes l).bytes = l := rfl

@[simp] theorem bytes_reset : b.reset.bytes = [] := rfl

theorem bytes_newIoBuffer {c : Int} {b : IoBuffer} (h : newIoBuffer c = .ok b) : b.bytes = [] := by
  unfold newIoBuffer at h
  split at h
  · cases h
  · injection h with h
    subst h
    rfl

theorem newIoBuffer_ok {c : Int} (hc : 0 ≤ c) : ∃ b, newIoBuffer c = .ok b := by
  unfold newIoBuffer
  rw [if_neg (by omega)]
  exact ⟨_, rfl⟩

theorem bytes_drain (hn : n ≤ b.len) : (b.drain n).bytes = b.bytes.drop n := by
  have hle : ¬ b.buf.length < b.off + n := by
    unfold len at hn
    have := b.off_le
    omega
  unfold drain bytes
  rw [dif_neg hle, List.drop_drop]

theorem len_drain (hn : n ≤ b.len) : (b.drain n).len = b.len - n := by
  rw [← length_bytes, bytes_drain b n hn, List.length_drop, length_bytes]

/-! ## §2. Appending. -/

/-- Room for `n` more bytes, as `Append` makes it: compact in place when the
drained front is large enough, else move to a larger array. -/
def reserve (b : IoBuffer) (n : Nat) : IoBuffer :=
  let free := b.cap - b.buf.length
  if free < n then
    { b with
      buf := b.bytes
      cap := if b.off + free < n then 2 * b.cap + n else b.cap
      off := 0
      off_le := Nat.zero_le _
      len_le := by
        have h₁ : b.bytes.length ≤ b.buf.length := by
          rw [length_bytes]
          exact Nat.sub_le _ _
        have h₂ := b.len_le
        split <;> omega }
  else b

theorem bytes_reserve : (b.reserve n).bytes = b.bytes := by
  simp only [reserve]
  split
  · exact List.drop_zero
  · rfl

theorem reserve_room : (b.reserve n).buf.length + n ≤ (b.reserve n).cap := by
  have h₁ := b.len_le
  have h₂ := b.off_le
  have h₃ : b.bytes.length = b.buf.length - b.off := length_bytes b
  simp only [reserve]
  split
  · simp only [h₃]
    split <;> omega
  · omega

/-- Put `p` behind the used part, given room for it. -/
def place (b : IoBuffer) (p : List UInt8) (h : b.buf.length + p.length ≤ b.cap) : IoBuffer :=
  { b with
    buf := b.buf ++ p
    off_le := by
      rw [List.length_append]
      exact Nat.le_add_right_of_le b.off_le
    len_le := by
      rw [List.length_append]
      exact h }

theorem bytes_place (h : b.buf.length + p.length ≤ b.cap) : (b.place p h).bytes = b.bytes ++ p :=
  List.drop_append_of_le_length b.off_le

/-- An exhausted buffer starts over. -/
def rewind (b : IoBuffer) : IoBuffer :=
  if b.buf.length ≤ b.off then b.reset else b

theorem bytes_rewind : b.rewind.bytes = b.bytes := by
  unfold rewind
  split
  next h =>
    rw [bytes_reset]
    exact (List.drop_eq_nil_of_le h).symm
  next => rfl

/-- `Append`. -/
def append (b : IoBuffer) (data : List UInt8) : IoBuffer :=
  (b.rewind.reserve data.length).place data (reserve_room _ _)

@[simp] theorem bytes_append (data : List UInt8) :
    (b.append data).bytes = b.bytes ++ data := by
  unfold append
  rw [bytes_place, bytes_reserve, bytes_rewind]

/-! ## §3. Writing. -/

/-- The allocating half of `grow`: slide the unread bytes down when they and
the new ones fill at most half of the array, else move to a larger array. -/
def slide (b : IoBuffer) (n : Nat) : IoBuffer :=
  { b with
    buf := b.bytes
    cap := if b.len + n ≤ b.cap / 2 then b.cap else 2 * b.cap + n
    off := 0
    off_le := Nat.zero_le _
    len_le := by
      have h₁ : b.bytes.length = b.buf.length - b.off := length_bytes b
      have h₂ := b.len_le
      split <;> omega }

theorem slide_room : (b.slide n).buf.length + n ≤ (b.slide n).cap := by
  have h₁ : b.bytes.length = b.len := length_bytes b
  have h₂ := b.len_le
  have h₃ : b.len ≤ b.buf.length := Nat.sub_le _ _
  simp only [slide, h₁]
  split <;> omega

/-- A nil buffer small enough for the bootstrap array. -/
def bootstrap (b : IoBuffer) (p : List UInt8) (h : p.length ≤ bootstrapLen)
    (hoff : b.off ≤ p.length) : IoBuffer :=
  { b with buf := p, cap := bootstrapLen, isNil := false, off_le := hoff, len_le := h }

/-- The second half of `grow` with the copy: reslice, use the bootstrap
array, or move the unread bytes. -/
def enlarge (b : IoBuffer) (p : List UInt8) : IoBuffer :=
  if h : b.buf.length + p.length ≤ b.cap then b.place p h
  else if h : b.isNil = true ∧ b.buf = [] ∧ p.length ≤ bootstrapLen then
    b.bootstrap p h.2.2 (by
      have := b.off_le
      rw [h.2.1, List.length_nil] at this
      omega)
  else (b.slide p.length).place p (slide_room _ _)

/-- `Write` after the first reslice has failed: `grow`, then the copy.  An
exhausted buffer is reset first. -/
def growWrite (b : IoBuffer) (p : List UInt8) : IoBuffer :=
  (if b.len = 0 ∧ b.off ≠ 0 then b.reset else b).enlarge p

/-- `Write`. -/
def write (b : IoBuffer) (p : List UInt8) : IoBuffer :=
  if h : b.buf.length + p.length ≤ b.cap then b.place p h else b.growWrite p

theorem bytes_enlarge : (b.enlarge p).bytes = b.bytes ++ p := by
  unfold enlarge
  split
  · exact bytes_place b p _
  · split
    next h =>
      have hoff : b.off = 0 := by
        have := b.off_le
        rw [h.2.1, List.length_nil] at this
        omega
      show p.drop b.off = b.buf.drop b.off ++ p
      rw [hoff, h.2.1]
      rfl
    next =>
      rw [bytes_place]
      rfl

theorem bytes_growWrite : (b.growWrite p).bytes = b.bytes ++ p := by
  unfold growWrite
  rw [bytes_enlarge]
  split
  next h =>
    rw [bytes_reset, List.eq_nil_of_length_eq_zero ((length_bytes b).trans h.1)]
  next => rfl

@[simp] theorem bytes_write :
    (b.write p).bytes = b.bytes ++ p := by
  unfold write
  split
  · exact bytes_place b p _
  · exact bytes_growWrite b p

/-! ## §4. Reading from a source. -/

end IoBuffer

/-- How a source hands out its content: the number of bytes of a read, from the
number of bytes left and the room that is offered; and whether a read that
takes the last bytes reports the end along with them. -/
structure Source where
  count : Nat → Nat → Nat
  eof : Nat → Bool
  count_pos : ∀ {left room}, 0 < left → 0 < room → 0 < count left room
  count_le_left : ∀ left room, count left room ≤ left
  count_le_room : ∀ left room, count left room ≤ room

namespace IoBuffer

/-- The zero value. -/
def zero : IoBuffer :=
  { buf := [], cap := 0, off := 0, offMark := 0, isNil := true,
    off_le := Nat.le_refl 0, len_le := Nat.le_refl 0 }

/-- `MinRead`. -/
def minRead : Nat := 2 ^ 10

/-- One read into the room behind the used part, with `left` still to come. -/
def readOnto (r : Source) (b : IoBuffer) (left : List UInt8) : IoBuffer :=
  (b.reserve minRead).place
    (left.take (r.count left.length ((b.reserve minRead).cap - (b.reserve minRead).buf.length)))
    (by
      have hcount := r.count_le_room left.length
        ((b.reserve minRead).cap - (b.reserve minRead).buf.length)
      have hroom := reserve_room b minRead
      rw [List.length_take]
      omega)

/-- How many bytes that read takes. -/
def readCount (r : Source) (b : IoBuffer) (left : List UInt8) : Nat :=
  r.count left.length ((b.reserve minRead).cap - (b.reserve minRead).buf.length)

/-- The loop of `ReadFrom`, with `left` still to come: until the source reports
its end, or a read takes nothing. -/
def readLoop (r : Source) (b : IoBuffer) (left : List UInt8) : IoBuffer :=
  let m := b.readCount r left
  let b' := b.readOnto r left
  if left.drop m = [] ∧ (left = [] ∨ r.eof left.length = true) then b'
  else if m = 0 then b'
  else readLoop r b' (left.drop m)
termination_by left.length
decreasing_by
  rename_i _ hm
  have hle := r.count_le_left left.length
    ((b.reserve minRead).cap - (b.reserve minRead).buf.length)
  change b.readCount r left ≤ left.length at hle
  change ¬ b.readCount r left = 0 at hm
  rw [List.length_drop]
  omega

/-- `ReadFrom`, of a source with the given content. -/
def readFrom (r : Source) (b : IoBuffer) (content : List UInt8) : IoBuffer :=
  b.rewind.readLoop r content

variable (r : Source)

theorem bytes_readOnto (b : IoBuffer) (left : List UInt8) :
    (b.readOnto r left).bytes = b.bytes ++ left.take (b.readCount r left) := by
  unfold readOnto
  rw [bytes_place, bytes_reserve]
  rfl

theorem readCount_pos (b : IoBuffer) {left : List UInt8} (h : left ≠ []) :
    0 < b.readCount r left := by
  have hroom := reserve_room b minRead
  apply r.count_pos
  · exact List.length_pos_iff.mpr h
  · unfold minRead at hroom ⊢
    omega

/-- **The whole source is read**, by induction on what is still to come. -/
theorem bytes_readLoop (b : IoBuffer) (left : List UInt8) :
    (b.readLoop r left).bytes = b.bytes ++ left := by
  induction hn : left.length using Nat.strongRecOn generalizing b left with
  | ind n ih =>
    have hsplit := List.take_append_drop (b.readCount r left) left
    unfold readLoop
    simp only
    split
    next hend =>
      rw [hend.1, List.append_nil] at hsplit
      rw [bytes_readOnto, hsplit]
    next hend =>
      split
      next hm =>
        have hnil : left = [] := by
          by_contra hne
          exact absurd hm (Nat.ne_of_gt (b.readCount_pos r hne))
        rw [bytes_readOnto, hm, hnil]
        rfl
      next hm =>
        have hle : b.readCount r left ≤ left.length := r.count_le_left _ _
        have hless : (left.drop (b.readCount r left)).length < n := by
          rw [List.length_drop]
          omega
        rw [ih _ hless _ _ rfl, bytes_readOnto, List.append_assoc, hsplit]

theorem bytes_readFrom (b : IoBuffer) (content : List UInt8) :
    (b.readFrom r content).bytes = b.bytes ++ content := by
  unfold readFrom
  rw [bytes_readLoop, bytes_rewind]

end IoBuffer

end Mosn.Network
