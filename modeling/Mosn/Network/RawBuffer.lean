/-
  Mosn.Network.RawBuffer
  **THE READ/WRITE BUFFER, DOWN TO ITS BACKING ARRAY**
  (`pkg/network/buffer/iobuffer.go`).

      array   x x x a b c d y y y y      cap(b.buf) cells
                    ↑       ↑
                   off   len(b.buf)      a b c d are unread, x and y are stale

  Every slice expression and every sum is checked, so a method that leaves the
  array or the range of `int` is an error here and not a wrong answer.  There
  are five ways to make room, and the copies of four of them are made inside
  one array.

  `Room` says what all of them leave: the unread bytes, followed by a gap of
  the wanted size.  `Wf` (`off ≤ len ≤ cap`) is kept by every method.
-/
import Mosn.Lib.Loop
import Mosn.Lib.Strconv

namespace Mosn.Network

open Mosn.Lib

/-- What stops a method of the buffer. -/
inductive BufferFault where
  /-- A slice expression out of range. -/
  | sliceBounds
  /-- A sum that is no `int`. -/
  | overflow
  /-- `panic(ErrInvalidWriteCount)`. -/
  | invalidWriteCount
  deriving DecidableEq, Repr

/-- A sum of two sizes, as an `int`. -/
def int (n : Nat) : Except BufferFault Nat := if n < 2 ^ 63 then .ok n else .error .overflow

/-- `copy(dst, src)` for a `dst` of `room` cells from cell `pos` on.  The cells
of `src` are read before any of `dst` is written. -/
def copyInto (array : List UInt8) (pos room : Nat) (src : List UInt8) : List UInt8 :=
  array.take pos ++ src.take room ++ array.drop (pos + (src.take room).length)

/-- `IoBuffer`: the array under `buf`, and `len(buf)`. -/
structure RawBuffer where
  array : List UInt8
  len : Nat
  off : Nat
  offMark : Int
  /-- `buf == nil`. -/
  isNil : Bool
  deriving DecidableEq, Repr

/-- What may be written to. -/
structure Writer where
  /-- `Write`, given what it was offered before. -/
  write : List (List UInt8) → List UInt8 → Nat × Option GoString
  /-- It takes a prefix of what it is offered. -/
  write_le : ∀ before p, (write before p).1 ≤ p.length

namespace RawBuffer

/-! ## §1. The methods. -/

/-- `cap(b.buf)`. -/
def cap (b : RawBuffer) : Nat := b.array.length

/-- `Len`. -/
def size (b : RawBuffer) : Nat := b.len - b.off

/-- `b.buf[lo:hi]`. -/
def slice (b : RawBuffer) (lo hi : Nat) : Except BufferFault (List UInt8) :=
  if lo ≤ hi ∧ hi ≤ b.cap then .ok ((b.array.take hi).drop lo) else .error .sliceBounds

/-- `b.buf = b.buf[:n]`. -/
def reslice (b : RawBuffer) (n : Nat) : Except BufferFault RawBuffer :=
  if n ≤ b.cap then .ok { b with len := n } else .error .sliceBounds

/-- `Reset`. -/
def reset (b : RawBuffer) : RawBuffer := { b with len := 0, off := 0, offMark := -1 }

/-- `tryGrowByReslice`: the old length, if there is room. -/
def tryGrowByReslice (b : RawBuffer) (n : Nat) : Except BufferFault (Option (RawBuffer × Nat)) := do
  let sum ← int (b.len + n)
  if sum ≤ b.cap then
    let resliced ← b.reslice sum
    return some (resliced, b.len)
  else return none

/-- The unread bytes are copied to the front: of the array itself, or of a new
one that is twice as large and has `n` cells more. -/
def relocate (b : RawBuffer) (inPlace : Bool) (n : Nat) : Except BufferFault RawBuffer := do
  let unread ← b.slice b.off b.len
  if inPlace then
    return { b with array := copyInto b.array 0 b.len unread, off := 0 }
  else
    let larger ← int (2 * b.cap + n)
    return { b with array := copyInto (List.replicate larger 0) 0 larger unread, len := larger,
                    off := 0, isNil := false }

/-- The end of `grow`: slide down if the result fills at most half of the
array, else move to a larger one. -/
def slideOrMove (b : RawBuffer) (m n : Nat) : Except BufferFault (RawBuffer × Nat) := do
  let sum ← int (m + n)
  let moved ← b.relocate (sum ≤ b.cap / 2) n
  let resliced ← moved.reslice sum
  return (resliced, m)

/-- `grow`. -/
def grow (b : RawBuffer) (n : Nat) : Except BufferFault (RawBuffer × Nat) := do
  let m := b.size
  let b := if m = 0 ∧ b.off ≠ 0 then b.reset else b
  match ← b.tryGrowByReslice n with
  | some grown => return grown
  | none =>
    if b.isNil ∧ n ≤ 64 then
      return ({ b with array := List.replicate 64 0, len := n, isNil := false }, 0)
    else b.slideOrMove m n

/-- `Write`. -/
def write (b : RawBuffer) (p : List UInt8) : Except BufferFault (RawBuffer × Nat) := do
  let (grown, m) ← match ← b.tryGrowByReslice p.length with
    | some grown => pure grown
    | none => b.grow p.length
  -- copy(b.buf[m:], p)
  let gap ← grown.slice m grown.len
  return ({ grown with array := copyInto grown.array m gap.length p }, min gap.length p.length)

/-- The room that `Append` makes. -/
def makeRoom (b : RawBuffer) (dataLen : Nat) : Except BufferFault RawBuffer := do
  let free := b.cap - b.len
  if free < dataLen then
    let room ← int (b.off + free)
    let moved ← b.relocate (dataLen ≤ room) dataLen
    moved.reslice (b.len - b.off)
  else return b

/-- `Append`. -/
def append (b : RawBuffer) (data : List UInt8) : Except BufferFault RawBuffer := do
  let b ← (if b.len ≤ b.off then b.reset else b).makeRoom data.length
  let hi ← int (b.len + data.length)
  let gap ← b.slice b.len hi
  { b with array := copyInto b.array b.len gap.length data }.reslice
    (b.len + min gap.length data.length)

/-- `Read` into a slice of `n` cells: what is copied there, and whether the
error is `io.EOF`. -/
def read (b : RawBuffer) (n : Nat) : Except BufferFault (RawBuffer × List UInt8 × Bool) := do
  if b.len ≤ b.off then return (b.reset, [], decide (n ≠ 0))
  else
    let unread ← b.slice b.off b.len
    let off ← int (b.off + (unread.take n).length)
    return ({ b with off }, unread.take n, false)

/-- `Drain`. -/
def drain (b : RawBuffer) (offset : Nat) : Except BufferFault RawBuffer := do
  let sum ← int (b.off + offset)
  if b.len < sum then return b else return { b with off := sum, offMark := -1 }

/-- `Cut`.  The buffer that is returned has its own array. -/
def cut (b : RawBuffer) (offset : Nat) : Except BufferFault (RawBuffer × Option RawBuffer) := do
  let sum ← int (b.off + offset)
  if b.len < sum then return (b, none)
  else
    let src ← b.slice b.off sum
    return ({ b with off := sum, offMark := -1 },
      some ⟨copyInto (List.replicate offset 0) 0 offset src, offset, 0, 0, false⟩)

/-- `Peek`.  A slice of the nil slice is nil. -/
def peek (b : RawBuffer) (n : Nat) : Except BufferFault (Option (List UInt8)) := do
  if b.len - b.off < n then return none
  else
    let sum ← int (b.off + n)
    let front ← b.slice b.off sum
    return if b.isNil then none else some front

/-- `WriteTo`: the number of bytes, the bytes that the writer took, its error. -/
def writeTo (w : Writer) (before : List (List UInt8)) (b : RawBuffer) :
    Except BufferFault (RawBuffer × Nat × List UInt8 × Option GoString) :=
  if b.off < b.len then
    match b.slice b.off b.len with
    | .error e => .error e
    | .ok p =>
      let m := (w.write before p).1
      if b.size < m then .error .invalidWriteCount
      else
        let b' := { b with off := b.off + m }
        match (w.write before p).2 with
        | some e => .ok (b', m, p.take m, some e)
        | none =>
          if m = 0 ∨ m = b.size then .ok (b', m, p.take m, none)
          else (writeTo w (before ++ [p]) b').map fun (r, n, taken, e) =>
            (r, m + n, p.take m ++ taken, e)
  else .ok (b, 0, [], none)
termination_by b.len - b.off
decreasing_by
  rename_i hm
  omega

/-! ## §2. The unread bytes. -/

/-- The bounds that every method relies on. -/
structure Wf (b : RawBuffer) : Prop where
  off_le : b.off ≤ b.len
  len_le : b.len ≤ b.cap
  nil_cap : b.isNil = true → b.cap = 0

/-- `Bytes`: the unread bytes. -/
def bytes (b : RawBuffer) : List UInt8 := (b.array.take b.len).drop b.off

variable {b : RawBuffer}

theorem Wf.length_bytes (h : b.Wf) : b.bytes.length = b.len - b.off := by
  have hlen : b.len ≤ b.array.length := h.len_le
  unfold bytes
  rw [List.length_drop, List.length_take]
  omega

variable {n hi pos room m : Nat} {array src p data : List UInt8} {b' : RawBuffer}

theorem int_eq_ok (h : n < 2 ^ 63) : int n = .ok n := if_pos h

theorem slice_eq_ok {lo : Nat} (hlo : lo ≤ hi) (hhi : hi ≤ b.cap) :
    b.slice lo hi = .ok ((b.array.take hi).drop lo) :=
  if_pos ⟨hlo, hhi⟩

theorem Wf.slice_unread (h : b.Wf) : b.slice b.off b.len = .ok b.bytes :=
  slice_eq_ok h.off_le h.len_le

theorem reslice_eq_ok (h : n ≤ b.cap) : b.reslice n = .ok { b with len := n } := if_pos h

theorem take_bytes (hlo : b.off ≤ hi) (hhi : hi ≤ b.len) :
    (b.array.take hi).drop b.off = b.bytes.take (hi - b.off) := by
  unfold bytes
  rw [List.take_drop, List.take_take]
  congr 2
  omega

theorem length_copyInto
    (h : pos + room ≤ array.length) : (copyInto array pos room src).length = array.length := by
  unfold copyInto
  simp only [List.length_append, List.length_take, List.length_drop]
  omega

theorem take_copyInto (hpos : pos ≤ array.length) (hroom : src.length ≤ room) :
    (copyInto array pos room src).take (pos + src.length) = array.take pos ++ src := by
  have hfront : (array.take pos ++ src).length = pos + src.length := by
    rw [List.length_append, List.length_take]
    omega
  unfold copyInto
  rw [List.take_of_length_le hroom, ← hfront, List.take_left]

theorem Wf.reset (h : b.Wf) : b.reset.Wf :=
  ⟨Nat.le_refl 0, Nat.zero_le _, h.nil_cap⟩

theorem bytes_reset (b : RawBuffer) : b.reset.bytes = [] := by
  unfold bytes RawBuffer.reset
  rw [List.take_zero]
  rfl

theorem Wf.bytes_eq_nil (h : b.Wf) (hempty : b.len ≤ b.off) : b.bytes = [] := by
  apply List.eq_nil_of_length_eq_zero
  rw [h.length_bytes]
  omega

/-! ## §3. Making room. -/

/-- Sizes of at most `2 ^ 31`, and arrays that have been doubled at most once
beyond that. -/
structure Sized (b : RawBuffer) (n : Nat) : Prop where
  cap_lt : b.cap < 2 ^ 34
  size_lt : b.size + n < 2 ^ 31

/-- `b'` holds the unread bytes of `b` up to cell `m`, and a gap of `n` cells
behind them. -/
structure Room (b : RawBuffer) (n : Nat) (b' : RawBuffer) (m : Nat) : Prop where
  off_le : b'.off ≤ m
  fits : m + n ≤ b'.cap
  unread : (b'.array.take m).drop b'.off = b.bytes
  cap_lt : b'.cap < 2 ^ 34
  nil_cap : b'.isNil = true → b'.cap = 0

/-- **The gap is filled.** -/
theorem Room.fill (h : Room b p.length b' m) :
    ({ b' with array := copyInto b'.array m p.length p, len := m + p.length } : RawBuffer).Wf
      ∧ ({ b' with array := copyInto b'.array m p.length p, len := m + p.length }
          : RawBuffer).bytes = b.bytes ++ p
      ∧ (copyInto b'.array m p.length p).length = b'.cap := by
  have hlen : (copyInto b'.array m p.length p).length = b'.cap := length_copyInto h.fits
  have hpos : m ≤ b'.array.length := Nat.le_trans (Nat.le_add_right m _) h.fits
  refine ⟨⟨Nat.le_trans h.off_le (Nat.le_add_right m _), ?_, ?_⟩, ?_, hlen⟩
  · change m + p.length ≤ (copyInto b'.array m p.length p).length
    rw [hlen]
    exact h.fits
  · intro hnil
    exact hlen.trans (h.nil_cap hnil)
  · change ((copyInto b'.array m p.length p).take (m + p.length)).drop b'.off = _
    rw [take_copyInto hpos (Nat.le_refl _), List.drop_append_of_le_length, h.unread]
    rw [List.length_take]
    have := h.off_le
    omega

/-- **Reslicing**: the room behind the used part, if that is enough. -/
theorem tryGrowByReslice_eq (h : b.Wf) (hsized : b.Sized n) : b.tryGrowByReslice n
      = .ok (if b.len + n ≤ b.cap then some ({ b with len := b.len + n }, b.len) else none) := by
  have hlen := h.len_le
  have hcap := hsized.cap_lt
  have hsize := hsized.size_lt
  unfold tryGrowByReslice
  rw [int_eq_ok (by omega)]
  change (if b.len + n ≤ b.cap then _ else _) = _
  by_cases hfits : b.len + n ≤ b.cap
  · rw [if_pos hfits, if_pos hfits, reslice_eq_ok hfits]
    rfl
  · rw [if_neg hfits, if_neg hfits]
    rfl

theorem room_reslice (h : b.Wf) (hsized : b.Sized n) (hfits : b.len + n ≤ b.cap) :
    Room b n { b with len := b.len + n } b.len :=
  ⟨h.off_le, hfits, rfl, hsized.cap_lt, h.nil_cap⟩

theorem room_front {isNil : Bool} (h : b.Wf)
    (hfits : b.size + n ≤ array.length) (hcap : array.length < 2 ^ 34)
    (hnil : isNil = true → array.length = 0) (hroom : b.size ≤ room)
    (hle : room ≤ array.length) (len : Nat) (mark : Int) :
    Room b n ⟨copyInto array 0 room b.bytes, len, 0, mark, isNil⟩ b.size := by
  have hlen : b.bytes.length = b.size := h.length_bytes
  have hsame : (copyInto array 0 room b.bytes).length = array.length :=
    length_copyInto (by omega)
  refine ⟨Nat.zero_le _, ?_, ?_, ?_, ?_⟩
  · change b.size + n ≤ (copyInto array 0 room b.bytes).length
    rw [hsame]
    exact hfits
  · have htake : (copyInto array 0 room b.bytes).take (0 + b.bytes.length)
        = array.take 0 ++ b.bytes := take_copyInto (Nat.zero_le _) (by omega)
    rw [Nat.zero_add, hlen] at htake
    exact htake
  · change (copyInto array 0 room b.bytes).length < 2 ^ 34
    rw [hsame]
    exact hcap
  · intro hisNil
    exact hsame.trans (hnil hisNil)

/-- **Sliding down and moving** make room, where there is enough of it. -/
theorem relocate_room (inPlace : Bool) (h : b.Wf) (hcap : b.cap < 2 ^ 34)
    (hslide : inPlace = true → b.size + n ≤ b.cap)
    (hmove : inPlace = false → 2 * b.cap + n < 2 ^ 34) : ∃ moved, b.relocate inPlace n = .ok moved
      ∧ ∀ len, Room b n { moved with len } b.size := by
  have hsize : b.size ≤ b.len := Nat.sub_le _ _
  have hlen : b.len ≤ b.cap := h.len_le
  cases inPlace with
  | true =>
    refine ⟨_, bind_eq_ok.mpr ⟨_, h.slice_unread, rfl⟩, ?_⟩
    intro len
    exact room_front h (hslide rfl) hcap h.nil_cap hsize h.len_le len b.offMark
  | false =>
    have hlarger := hmove rfl
    refine ⟨_, bind_eq_ok.mpr ⟨_, h.slice_unread, bind_eq_ok.mpr ⟨_, int_eq_ok ?_, rfl⟩⟩, ?_⟩
    · omega
    · intro len
      refine room_front h ?_ ?_ (fun hnil => absurd hnil Bool.false_ne_true) ?_ ?_ len b.offMark
      · rw [List.length_replicate]
        omega
      · rw [List.length_replicate]
        exact hlarger
      · omega
      · rw [List.length_replicate]

theorem room_bootstrap (h : b.Wf) (hnil : b.isNil = true) (hn : n ≤ 64) :
    Room b n { b with array := List.replicate 64 0, len := n, isNil := false } 0 := by
  have hcap : b.cap = 0 := h.nil_cap hnil
  have hlen : b.len ≤ 0 := hcap ▸ h.len_le
  have hoff : b.off ≤ 0 := Nat.le_trans h.off_le hlen
  refine ⟨hoff, ?_, ?_, ?_, fun hnil => absurd hnil Bool.false_ne_true⟩
  · change 0 + n ≤ (List.replicate 64 (0 : UInt8)).length
    rw [List.length_replicate]
    omega
  · rw [h.bytes_eq_nil (by omega), List.take_zero, List.drop_nil]
  · change (List.replicate 64 (0 : UInt8)).length < 2 ^ 34
    rw [List.length_replicate]
    decide

/-- What `grow` leaves. -/
def Grown (b : RawBuffer) (n : Nat) (r : Except BufferFault (RawBuffer × Nat)) : Prop :=
  ∃ b' m, r = .ok (b', m) ∧ b'.len = m + n ∧ Room b n b' m

theorem grown_slideOrMove (h : b.Wf) (hsized : b.Sized n) : Grown b n (b.slideOrMove b.size n) := by
  have hsize := hsized.size_lt
  have hcap := hsized.cap_lt
  obtain ⟨moved, hmoved, hroom⟩ := relocate_room (n := n)
    (decide (b.size + n ≤ b.cap / 2)) h hcap
    (fun hhalf => by have := of_decide_eq_true hhalf; omega)
    (fun hhalf => by have := of_decide_eq_false hhalf; omega)
  refine ⟨{ moved with len := b.size + n }, b.size, ?_, rfl, hroom _⟩
  unfold slideOrMove
  refine bind_eq_ok.mpr ⟨_, int_eq_ok (by omega), ?_⟩
  refine bind_eq_ok.mpr ⟨_, hmoved, ?_⟩
  exact bind_eq_ok.mpr ⟨_, reslice_eq_ok (hroom 0).fits, rfl⟩

/-- **`grow`**, by all of its ways. -/
theorem grown_grow (h : b.Wf) (hsized : b.Sized n) : Grown b n (b.grow n) := by
  -- the reset of an exhausted buffer changes no byte that can be read
  obtain ⟨b₀, hb₀, hwf, hsized₀, hbytes, hsize⟩ : ∃ b₀ : RawBuffer,
      (if b.size = 0 ∧ b.off ≠ 0 then b.reset else b) = b₀ ∧ b₀.Wf ∧ b₀.Sized n
        ∧ b₀.bytes = b.bytes ∧ b₀.size = b.size := by
    by_cases hempty : b.size = 0 ∧ b.off ≠ 0
    · have hle : b.len ≤ b.off := by
        have : b.len - b.off = 0 := hempty.1
        omega
      have hsize : b.reset.size = b.size := hempty.1.symm
      refine ⟨b.reset, if_pos hempty, h.reset, ⟨hsized.cap_lt, hsize ▸ hsized.size_lt⟩, ?_, hsize⟩
      rw [bytes_reset, h.bytes_eq_nil hle]
    · exact ⟨b, if_neg hempty, h, hsized, rfl, rfl⟩
  have hroom : ∀ {b' m}, Room b₀ n b' m → Room b n b' m := by
    intro b' m hroom
    exact ⟨hroom.off_le, hroom.fits, hroom.unread.trans hbytes, hroom.cap_lt, hroom.nil_cap⟩
  unfold grow
  simp only [hb₀]
  rw [tryGrowByReslice_eq hwf hsized₀]
  by_cases hfits : b₀.len + n ≤ b₀.cap
  · rw [if_pos hfits]
    exact ⟨_, _, rfl, rfl, hroom (room_reslice hwf hsized₀ hfits)⟩
  · rw [if_neg hfits]
    change Grown b n (if b₀.isNil = true ∧ n ≤ 64 then _ else b₀.slideOrMove b.size n)
    by_cases hnil : b₀.isNil = true ∧ n ≤ 64
    · rw [if_pos hnil]
      exact ⟨_, _, rfl, (Nat.zero_add n).symm, hroom (room_bootstrap hwf hnil.1 hnil.2)⟩
    · rw [if_neg hnil, ← hsize]
      obtain ⟨b', m, hok, hlen, hb'⟩ := grown_slideOrMove hwf hsized₀
      exact ⟨b', m, hok, hlen, hroom hb'⟩

/-- What a method that puts `p` behind the unread bytes leaves. -/
structure Extended (b : RawBuffer) (p : List UInt8) (b' : RawBuffer) : Prop where
  wf : b'.Wf
  bytes : b'.bytes = b.bytes ++ p
  cap_lt : b'.cap < 2 ^ 34

theorem Room.extended (h : Room b p.length b' m) :
    Extended b p { b' with array := copyInto b'.array m p.length p, len := m + p.length } := by
  obtain ⟨hwf, hbytes, hcap⟩ := h.fill
  refine ⟨hwf, hbytes, ?_⟩
  change (copyInto b'.array m p.length p).length < 2 ^ 34
  rw [hcap]
  exact h.cap_lt

theorem Room.write (h : Room b p.length b' m) (hlen : b'.len = m + p.length) : ∃ b'', (do
        let gap ← b'.slice m b'.len
        return ({ b' with array := copyInto b'.array m gap.length p }, min gap.length p.length))
          = (.ok (b'', p.length) : Except BufferFault (RawBuffer × Nat))
      ∧ Extended b p b'' := by
  have hfits := h.fits
  have hgap : ((b'.array.take b'.len).drop m).length = p.length := by
    have : b'.cap = b'.array.length := rfl
    rw [List.length_drop, List.length_take]
    omega
  have hself : ({ b' with array := copyInto b'.array m p.length p, len := m + p.length }
      : RawBuffer) = { b' with array := copyInto b'.array m p.length p } := by
    rw [hlen]
  refine ⟨{ b' with array := copyInto b'.array m p.length p }, ?_, hself ▸ h.extended⟩
  rw [slice_eq_ok (by omega) (by omega)]
  change Except.ok _ = _
  rw [hgap, Nat.min_self]

/-- **`Write`.** -/
theorem write_extended (h : b.Wf) (hsized : b.Sized p.length) :
    ∃ b', b.write p = .ok (b', p.length) ∧ Extended b p b' := by
  unfold write
  rw [tryGrowByReslice_eq h hsized]
  by_cases hfits : b.len + p.length ≤ b.cap
  · rw [if_pos hfits]
    exact (room_reslice h hsized hfits).write rfl
  · rw [if_neg hfits]
    obtain ⟨b', m, hok, hlen, hroom⟩ := grown_grow h hsized
    change ∃ b'', (do
      let (grown, m) ← b.grow p.length
      let gap ← grown.slice m grown.len
      return ({ grown with array := copyInto grown.array m gap.length p },
        min gap.length p.length)) = _ ∧ _
    rw [hok]
    exact hroom.write hlen

/-- **The room of `Append`.** -/
theorem makeRoom_room (h : b.Wf) (hsized : b.Sized n) :
    ∃ b', b.makeRoom n = .ok b' ∧ Room b n b' b'.len := by
  have hoff := h.off_le
  have hlen := h.len_le
  have hcap := hsized.cap_lt
  have hsize := hsized.size_lt
  have hdef : b.size = b.len - b.off := rfl
  unfold makeRoom
  by_cases hfree : b.cap - b.len < n
  · obtain ⟨moved, hmoved, hroom⟩ := relocate_room (n := n)
      (decide (n ≤ b.off + (b.cap - b.len))) h hcap
      (fun hfits => by have := of_decide_eq_true hfits; omega)
      (fun hfits => by have := of_decide_eq_false hfits; omega)
    refine ⟨{ moved with len := b.size }, ?_, hroom _⟩
    simp only [if_pos hfree]
    refine bind_eq_ok.mpr ⟨_, int_eq_ok (by omega), ?_⟩
    refine bind_eq_ok.mpr ⟨_, hmoved, ?_⟩
    exact reslice_eq_ok (Nat.le_trans (Nat.le_add_right _ _) (hroom 0).fits)
  · simp only [if_neg hfree]
    exact ⟨b, rfl, ⟨h.off_le, by omega, rfl, hcap, h.nil_cap⟩⟩

theorem Room.append (h : Room b data.length b' b'.len) : ∃ b'', (do
        let hi ← int (b'.len + data.length)
        let gap ← b'.slice b'.len hi
        { b' with array := copyInto b'.array b'.len gap.length data }.reslice
          (b'.len + min gap.length data.length)) = .ok b''
      ∧ Extended b data b'' := by
  have hfits := h.fits
  have hcap := h.cap_lt
  have hgap : ((b'.array.take (b'.len + data.length)).drop b'.len).length = data.length := by
    have : b'.cap = b'.array.length := rfl
    rw [List.length_drop, List.length_take]
    omega
  refine ⟨_, ?_, h.extended⟩
  refine bind_eq_ok.mpr ⟨_, int_eq_ok (by omega), ?_⟩
  refine bind_eq_ok.mpr ⟨_, slice_eq_ok (by omega) hfits, ?_⟩
  rw [hgap, Nat.min_self]
  exact reslice_eq_ok h.extended.wf.len_le

/-- **`Append`.** -/
theorem append_extended (h : b.Wf) (hsized : b.Sized data.length) :
    ∃ b', b.append data = .ok b' ∧ Extended b data b' := by
  obtain ⟨b₀, hb₀, hwf, hsized₀, hbytes⟩ : ∃ b₀ : RawBuffer,
      (if b.len ≤ b.off then b.reset else b) = b₀ ∧ b₀.Wf ∧ b₀.Sized data.length
        ∧ b₀.bytes = b.bytes := by
    by_cases hempty : b.len ≤ b.off
    · refine ⟨b.reset, if_pos hempty, h.reset, ⟨hsized.cap_lt, ?_⟩, ?_⟩
      · change 0 - 0 + data.length < 2 ^ 31
        have := hsized.size_lt
        omega
      · rw [bytes_reset, h.bytes_eq_nil hempty]
    · exact ⟨b, if_neg hempty, h, hsized, rfl⟩
  obtain ⟨b', hok, hroom⟩ := makeRoom_room hwf hsized₀
  obtain ⟨b'', hcopy, hextended⟩ := hroom.append
  refine ⟨b'', ?_, ⟨hextended.wf, hbytes ▸ hextended.bytes, hextended.cap_lt⟩⟩
  unfold append
  rw [hb₀]
  exact bind_eq_ok.mpr ⟨b', hok, hcopy⟩

/-! ## §4. Reading. -/

/-- What a method that takes the first `k` unread bytes leaves. -/
structure Advanced (b : RawBuffer) (k : Nat) (b' : RawBuffer) : Prop where
  wf : b'.Wf
  bytes : b'.bytes = b.bytes.drop k
  cap : b'.cap = b.cap

/-- **The read offset moves** over at most the unread bytes. -/
theorem Wf.advance (h : b.Wf) {k : Nat} (hk : k ≤ b.size) (mark : Int) :
    Advanced b k { b with off := b.off + k, offMark := mark } := by
  have hoff := h.off_le
  have hsize : b.size = b.len - b.off := rfl
  refine ⟨⟨?_, h.len_le, h.nil_cap⟩, ?_, rfl⟩
  · change b.off + k ≤ b.len
    omega
  · change (b.array.take b.len).drop (b.off + k) = _
    unfold RawBuffer.bytes
    rw [List.drop_drop]

theorem Wf.advanced_zero (h : b.Wf) : Advanced b 0 b := ⟨h, List.drop_zero.symm, rfl⟩

/-- **`Read`.** -/
theorem Wf.read_eq (h : b.Wf) (hcap : b.cap < 2 ^ 34) (n : Nat) :
    ∃ b', b.read n = .ok (b', b.bytes.take n, decide (b.bytes = [] ∧ n ≠ 0))
      ∧ Advanced b n b' := by
  unfold RawBuffer.read
  by_cases hempty : b.len ≤ b.off
  · have hnil := h.bytes_eq_nil hempty
    refine ⟨b.reset, ?_, ⟨h.reset, ?_, rfl⟩⟩
    · simp only [if_pos hempty, hnil, List.take_nil, true_and]
      rfl
    · rw [bytes_reset, hnil, List.drop_nil]
  · have hlen : b.bytes.length = b.size := h.length_bytes
    have hsize : b.size = b.len - b.off := rfl
    have hle := h.len_le
    have hne : ¬ (b.bytes = [] ∧ n ≠ 0) := by
      rintro ⟨hnil, -⟩
      rw [hnil, List.length_nil] at hlen
      omega
    have htake : (b.bytes.take n).length ≤ b.size := by
      rw [← hlen]
      exact List.length_take_le' n _
    have hadvance := h.advance htake b.offMark
    refine ⟨_, ?_, ⟨hadvance.wf, ?_, rfl⟩⟩
    · simp only [if_neg hempty, decide_eq_false hne]
      refine bind_eq_ok.mpr ⟨_, h.slice_unread, ?_⟩
      exact bind_eq_ok.mpr ⟨_, int_eq_ok (by omega), rfl⟩
    · rw [hadvance.bytes, List.length_take]
      by_cases hn : n ≤ b.bytes.length
      · rw [Nat.min_eq_left hn]
      · rw [Nat.min_eq_right (by omega), List.drop_length,
          List.drop_eq_nil_of_le (Nat.le_of_not_le hn)]

/-- **`Drain`** takes all of the bytes it is told to, or none. -/
theorem Wf.drain_eq (h : b.Wf) (hcap : b.cap < 2 ^ 34) (hn : n < 2 ^ 31) :
    ∃ b', b.drain n = .ok b' ∧ Advanced b (if n ≤ b.bytes.length then n else 0) b' := by
  have hlen := h.length_bytes
  have hoff := h.off_le
  have hle := h.len_le
  have hsize : b.size = b.len - b.off := rfl
  unfold RawBuffer.drain
  by_cases hshort : b.len < b.off + n
  · rw [if_neg (by omega)]
    exact ⟨b, bind_eq_ok.mpr ⟨_, int_eq_ok (by omega), if_pos hshort⟩, h.advanced_zero⟩
  · rw [if_pos (by omega)]
    exact ⟨_, bind_eq_ok.mpr ⟨_, int_eq_ok (by omega), if_neg hshort⟩,
      h.advance (by omega) (-1)⟩

/-- **`Cut`** returns the bytes that `Drain` would skip, in a buffer of their own. -/
theorem Wf.cut_eq (h : b.Wf) (hcap : b.cap < 2 ^ 34) (hn : n < 2 ^ 31) :
    ∃ b' front, b.cut n = .ok (b', front)
      ∧ Advanced b (if n ≤ b.bytes.length then n else 0) b'
      ∧ front.map bytes = (if n ≤ b.bytes.length then some (b.bytes.take n) else none) := by
  have hlen := h.length_bytes
  have hoff := h.off_le
  have hle := h.len_le
  have hsize : b.size = b.len - b.off := rfl
  unfold RawBuffer.cut
  by_cases hshort : b.len < b.off + n
  · rw [if_neg (show ¬ n ≤ b.bytes.length by omega), if_neg (show ¬ n ≤ b.bytes.length by omega)]
    exact ⟨b, none, bind_eq_ok.mpr ⟨_, int_eq_ok (by omega), if_pos hshort⟩, h.advanced_zero, rfl⟩
  · have hfront : (b.array.take (b.off + n)).drop b.off = b.bytes.take n := by
      rw [take_bytes (Nat.le_add_right _ _) (by omega)]
      congr 1
      omega
    have htake : (b.bytes.take n).length = n := by
      rw [List.length_take]
      omega
    rw [if_pos (show n ≤ b.bytes.length by omega)]
    refine ⟨_, some ⟨copyInto (List.replicate n 0) 0 n (b.bytes.take n), n, 0, 0, false⟩,
      bind_eq_ok.mpr ⟨_, int_eq_ok (by omega), ?_⟩, h.advance (by omega) (-1), ?_⟩
    · rw [if_neg hshort, ← hfront]
      exact bind_eq_ok.mpr ⟨_, slice_eq_ok (Nat.le_add_right _ _) (by omega), rfl⟩
    · rw [Option.map_some, if_pos (show n ≤ b.bytes.length by omega)]
      have hcopy : (copyInto (List.replicate n 0) 0 n (b.bytes.take n)).take
          (0 + (b.bytes.take n).length) = (List.replicate n 0).take 0 ++ b.bytes.take n :=
        take_copyInto (Nat.zero_le _) (by omega)
      rw [Nat.zero_add, htake] at hcopy
      exact congrArg some hcopy

/-- **`Peek`** returns the bytes and takes none. -/
theorem Wf.peek_eq (h : b.Wf) (hcap : b.cap < 2 ^ 34) (hn : n < 2 ^ 31) :
    b.peek n = .ok (if n ≤ b.bytes.length then
      (if b.isNil then none else some (b.bytes.take n)) else none) := by
  have hlen := h.length_bytes
  have hoff := h.off_le
  have hle := h.len_le
  unfold RawBuffer.peek
  by_cases hshort : b.len - b.off < n
  · rw [if_pos hshort, if_neg (show ¬ n ≤ b.bytes.length by omega)]
    rfl
  · have hfront : (b.array.take (b.off + n)).drop b.off = b.bytes.take n := by
      rw [take_bytes (Nat.le_add_right _ _) (by omega)]
      congr 1
      omega
    rw [if_neg hshort, if_pos (show n ≤ b.bytes.length by omega), ← hfront]
    refine bind_eq_ok.mpr ⟨_, int_eq_ok (by omega), ?_⟩
    exact bind_eq_ok.mpr ⟨_, slice_eq_ok (Nat.le_add_right _ _) (by omega), rfl⟩

theorem Wf.bytes_of_nil (h : b.Wf) (hnil : b.isNil = true) : b.bytes = [] := by
  apply h.bytes_eq_nil
  have hcap := h.nil_cap hnil
  have hlen := h.len_le
  omega

end RawBuffer

end Mosn.Network
