/-
  Mosn.Network.ByteQueue
  **THE READ/WRITE BUFFER IS A FIFO BYTE QUEUE.**

  What the buffer is for: bytes go in at the back and come out at the front,
  in order, none lost and none twice.  `ByteQueue.step` says so for every
  operation, on a list of bytes; `RawBuffer.step` is the operation on the
  array with its stale cells.

    • `byteQueue_refined` — any sequence of operations.

  `Peek(0)` of a nil buffer is the nil slice, where the queue answers with the
  empty one; `Answers` allows for that and for nothing else.
-/
import Mosn.Network.IoBuffer
import Mosn.Network.RawBuffer

namespace Mosn.Network

open Mosn.Lib

/-! ## §1. Operations and answers. -/

inductive BufferOp where
  | write (p : List UInt8)
  | append (data : List UInt8)
  /-- `Read` into a slice of `n` cells. -/
  | read (n : Nat)
  | drain (n : Nat)
  | cut (n : Nat)
  | peek (n : Nat)
  | reset
  | writeTo (w : Writer)

/-- What a caller sees of an operation. -/
inductive BufferAnswer where
  | written (n : Nat)
  | done
  | read (data : List UInt8) (eof : Bool)
  /-- The content of the buffer that `Cut` returns. -/
  | cut (front : Option (List UInt8))
  | peeked (front : Option (List UInt8))
  /-- The count and the error that are returned, and what the writer took. -/
  | writtenTo (n : Nat) (taken : List UInt8) (err : Option GoString)
  deriving DecidableEq

/-- An operation on the buffer. -/
def RawBuffer.step (b : RawBuffer) : BufferOp → Except BufferFault (RawBuffer × BufferAnswer)
  | .write p => (b.write p).map fun (b, n) => (b, .written n)
  | .append data => (b.append data).map fun b => (b, .done)
  | .read n => (b.read n).map fun (b, data, eof) => (b, .read data eof)
  | .drain n => (b.drain n).map fun b => (b, .done)
  | .cut n => (b.cut n).map fun (b, front) => (b, .cut (front.map bytes))
  | .peek n => (b.peek n).map fun front => (b, .peeked front)
  | .reset => .ok (b.reset, .done)
  | .writeTo w => (b.writeTo w []).map fun (b, n, taken, err) => (b, .writtenTo n taken err)

/-- Operations one after the other. -/
def RawBuffer.run (b : RawBuffer) : List BufferOp →
    Except BufferFault (RawBuffer × List BufferAnswer)
  | [] => .ok (b, [])
  | op :: ops => do
      let first ← b.step op
      let rest ← first.1.run ops
      return (rest.1, first.2 :: rest.2)

/-! ## §2. The queue. -/

namespace ByteQueue

/-- The writer is offered what is left until it takes nothing, takes it all or
fails. -/
def writeTo (w : Writer) (before : List (List UInt8)) (q : List UInt8) :
    List UInt8 × Nat × List UInt8 × Option GoString :=
  if q = [] then (q, 0, [], none)
  else
    let m := (w.write before q).1
    match (w.write before q).2 with
    | some e => (q.drop m, m, q.take m, some e)
    | none =>
      if m = 0 ∨ m = q.length then (q.drop m, m, q.take m, none)
      else
        let rest := writeTo w (before ++ [q]) (q.drop m)
        (rest.1, m + rest.2.1, q.take m ++ rest.2.2.1, rest.2.2.2)
termination_by q.length
decreasing_by
  rename_i hne hm
  have hpos := List.length_pos_iff.mpr hne
  rw [List.length_drop]
  omega

def step (q : List UInt8) : BufferOp → List UInt8 × BufferAnswer
  | .write p => (q ++ p, .written p.length)
  | .append data => (q ++ data, .done)
  | .read n => (q.drop n, .read (q.take n) (decide (q = [] ∧ n ≠ 0)))
  | .drain n => (if n ≤ q.length then q.drop n else q, .done)
  | .cut n => if n ≤ q.length then (q.drop n, .cut (some (q.take n))) else (q, .cut none)
  | .peek n => (q, .peeked (if n ≤ q.length then some (q.take n) else none))
  | .reset => ([], .done)
  | .writeTo w =>
    let r := writeTo w [] q
    (r.1, .writtenTo r.2.1 r.2.2.1 r.2.2.2)

def run (q : List UInt8) : List BufferOp → List UInt8 × List BufferAnswer
  | [] => (q, [])
  | op :: ops =>
    let first := step q op
    let rest := run first.1 ops
    (rest.1, first.2 :: rest.2)

end ByteQueue

/-! ## §3. Refinement. -/

/-- The answer `a` of the buffer, where the queue answers `a'`. -/
def Answers (a a' : BufferAnswer) : Prop :=
  a = a' ∨ a = .peeked none ∧ a' = .peeked (some [])

/-- Sizes below `2 ^ 31`: the arguments, and the content with what is added. -/
def BufferOp.Small (q : List UInt8) : BufferOp → Prop
  | .write p | .append p => q.length + p.length < 2 ^ 31
  | .read n | .drain n | .cut n | .peek n => n < 2 ^ 31
  | .reset | .writeTo _ => True

instance BufferOp.decidableSmall (q : List UInt8) : (op : BufferOp) → Decidable (op.Small q)
  | .write p | .append p => inferInstanceAs (Decidable (q.length + p.length < 2 ^ 31))
  | .read n | .drain n | .cut n | .peek n => inferInstanceAs (Decidable (n < 2 ^ 31))
  | .reset | .writeTo _ => inferInstanceAs (Decidable True)

/-- All operations of a run are small. -/
def SmallRun (q : List UInt8) : List BufferOp → Prop
  | [] => True
  | op :: ops => op.Small q ∧ SmallRun (ByteQueue.step q op).1 ops

/-- What a run relies on and keeps. -/
structure RawBuffer.Good (b : RawBuffer) : Prop where
  wf : b.Wf
  cap_lt : b.cap < 2 ^ 34

/-- The operation returns, with the queue's answer and the queue's content. -/
def RawBuffer.Refined (b : RawBuffer) (op : BufferOp) : Prop :=
  ∃ b' a, b.step op = .ok (b', a) ∧ b'.Good ∧ b'.bytes = (ByteQueue.step b.bytes op).1
    ∧ Answers a (ByteQueue.step b.bytes op).2

namespace RawBuffer

variable {b : RawBuffer}

variable {b' : RawBuffer} {p : List UInt8} {n : Nat}

theorem Advanced.good {k : Nat} (h : Advanced b k b') (hb : b.Good) : b'.Good :=
  ⟨h.wf, h.cap ▸ hb.cap_lt⟩

theorem Good.sized (h : b.Good) (hp : b.bytes.length + p.length < 2 ^ 31) : b.Sized p.length :=
  ⟨h.cap_lt, Nat.lt_of_le_of_lt (Nat.le_of_eq (congrArg (· + _) h.wf.length_bytes.symm)) hp⟩

theorem Good.refined_write (h : b.Good)
    (hp : b.bytes.length + p.length < 2 ^ 31) : b.Refined (.write p) := by
  obtain ⟨b', hok, hext⟩ := write_extended h.wf (h.sized hp)
  exact ⟨b', _, map_eq_ok.mpr ⟨_, hok, rfl⟩, ⟨hext.wf, hext.cap_lt⟩, hext.bytes, .inl rfl⟩

theorem Good.refined_append (h : b.Good) {data : List UInt8}
    (hdata : b.bytes.length + data.length < 2 ^ 31) : b.Refined (.append data) := by
  obtain ⟨b', hok, hext⟩ := append_extended h.wf (h.sized hdata)
  exact ⟨b', _, map_eq_ok.mpr ⟨_, hok, rfl⟩, ⟨hext.wf, hext.cap_lt⟩, hext.bytes, .inl rfl⟩

theorem Good.refined_read (h : b.Good) (n : Nat) : b.Refined (.read n) := by
  obtain ⟨b', hok, hadv⟩ := h.wf.read_eq h.cap_lt n
  exact ⟨b', _, map_eq_ok.mpr ⟨_, hok, rfl⟩, hadv.good h, hadv.bytes, .inl rfl⟩

theorem Advanced.bytes_ite (h : Advanced b (if n ≤ b.bytes.length then n else 0) b') :
    b'.bytes = if n ≤ b.bytes.length then b.bytes.drop n else b.bytes := by
  rw [h.bytes]
  grind

theorem Good.refined_drain (h : b.Good) (hn : n < 2 ^ 31) : b.Refined (.drain n) := by
  obtain ⟨b', hok, hadv⟩ := h.wf.drain_eq h.cap_lt hn
  exact ⟨b', _, map_eq_ok.mpr ⟨_, hok, rfl⟩, hadv.good h, hadv.bytes_ite, .inl rfl⟩

theorem Good.refined_cut (h : b.Good) (hn : n < 2 ^ 31) : b.Refined (.cut n) := by
  obtain ⟨b', front, hok, hadv, hfront⟩ := h.wf.cut_eq h.cap_lt hn
  refine ⟨b', .cut (front.map bytes), map_eq_ok.mpr ⟨_, hok, rfl⟩, hadv.good h, ?_, .inl ?_⟩
  · rw [hadv.bytes_ite]
    change _ = (if n ≤ b.bytes.length then (_, _) else (_, _)).1
    grind
  · rw [hfront]
    change _ = (if n ≤ b.bytes.length then (_, _) else (_, _)).2
    grind

theorem Good.refined_peek (h : b.Good) (hn : n < 2 ^ 31) : b.Refined (.peek n) := by
  refine ⟨b, _, map_eq_ok.mpr ⟨_, h.wf.peek_eq h.cap_lt hn, rfl⟩, h, rfl, ?_⟩
  change Answers (.peeked _) (.peeked _)
  by_cases hle : n ≤ b.bytes.length
  · rw [if_pos hle, if_pos hle]
    by_cases hnil : b.isNil = true
    · rw [if_pos hnil, h.wf.bytes_of_nil hnil, List.take_nil]
      exact .inr ⟨rfl, rfl⟩
    · rw [if_neg hnil]
      exact .inl rfl
  · rw [if_neg hle, if_neg hle]
    exact .inl rfl

theorem Good.refined_reset (h : b.Good) : b.Refined .reset :=
  ⟨b.reset, .done, rfl, ⟨h.wf.reset, h.cap_lt⟩, bytes_reset b, .inl rfl⟩

/-- **`WriteTo`**, by induction on the offers that are made. -/
theorem Good.writeTo_eq (w : Writer) (before : List (List UInt8)) (b : RawBuffer) (h : b.Good) :
    ∃ b', b.writeTo w before = .ok (b', (ByteQueue.writeTo w before b.bytes).2) ∧ b'.Good
      ∧ b'.bytes = (ByteQueue.writeTo w before b.bytes).1 := by
  induction hn : b.size using Nat.strong_induction_on generalizing b before with
  | _ n ih =>
    have hlen : b.bytes.length = b.size := h.wf.length_bytes
    unfold RawBuffer.writeTo ByteQueue.writeTo
    by_cases hpos : b.off < b.len
    · have hsize : b.size = b.len - b.off := rfl
      have hne : b.bytes ≠ [] := by
        rw [← List.length_pos_iff]
        omega
      have hle : (w.write before b.bytes).1 ≤ b.size := hlen ▸ w.write_le before b.bytes
      have hadv := h.wf.advance hle b.offMark
      rw [if_pos hpos, h.wf.slice_unread]
      simp only [if_neg hne, if_neg (Nat.not_lt.mpr hle)]
      cases herr : (w.write before b.bytes).2 with
      | some e => exact ⟨_, rfl, hadv.good h, hadv.bytes⟩
      | none =>
        simp only [hlen]
        by_cases hstop : (w.write before b.bytes).1 = 0 ∨ (w.write before b.bytes).1 = b.size
        · simp only [if_pos hstop]
          exact ⟨_, rfl, hadv.good h, hadv.bytes⟩
        · simp only [if_neg hstop]
          have hless : ({ b with off := b.off + (w.write before b.bytes).1 } : RawBuffer).size
              < n := by
            change b.len - (b.off + (w.write before b.bytes).1) < n
            omega
          obtain ⟨b', hok, hgood, hbytes⟩ := ih _ hless (before ++ [b.bytes])
            { b with off := b.off + (w.write before b.bytes).1 } (hadv.good h) rfl
          rw [hadv.bytes] at hok hbytes
          exact ⟨b', map_eq_ok.mpr ⟨_, hok, rfl⟩, hgood, hbytes⟩
    · have hnil : b.bytes = [] := h.wf.bytes_eq_nil (Nat.le_of_not_lt hpos)
      rw [if_neg hpos, if_pos hnil]
      exact ⟨b, rfl, h, rfl⟩

theorem Good.refined_writeTo (h : b.Good) (w : Writer) : b.Refined (.writeTo w) := by
  obtain ⟨b', hok, hgood, hbytes⟩ := Good.writeTo_eq w [] b h
  exact ⟨b', _, map_eq_ok.mpr ⟨_, hok, rfl⟩, hgood, hbytes, .inl rfl⟩

/-- **One operation.** -/
theorem Good.refined (h : b.Good) {op : BufferOp} (hop : op.Small b.bytes) : b.Refined op := by
  cases op with
  | write p => exact h.refined_write hop
  | append data => exact h.refined_append hop
  | read n => exact h.refined_read n
  | drain n => exact h.refined_drain hop
  | cut n => exact h.refined_cut hop
  | peek n => exact h.refined_peek hop
  | reset => exact h.refined_reset
  | writeTo w => exact h.refined_writeTo w

/-- **A run**, by induction on the operations. -/
theorem Good.run_refined (ops : List BufferOp) : ∀ {b : RawBuffer}, b.Good →
    SmallRun b.bytes ops →
    ∃ b' answers, b.run ops = .ok (b', answers) ∧ b'.Good
      ∧ b'.bytes = (ByteQueue.run b.bytes ops).1
      ∧ List.Forall₂ Answers answers (ByteQueue.run b.bytes ops).2 := by
  induction ops with
  | nil =>
    intro b h _
    exact ⟨b, [], rfl, h, rfl, .nil⟩
  | cons op ops ih =>
    intro b h hsmall
    obtain ⟨b', a, hstep, hgood, hbytes, hanswer⟩ := h.refined hsmall.1
    obtain ⟨b'', answers, hrun, hgood', hbytes', hanswers⟩ := ih hgood (hbytes ▸ hsmall.2)
    rw [hbytes] at hbytes' hanswers
    refine ⟨b'', a :: answers, ?_, hgood', hbytes', .cons hanswer hanswers⟩
    exact bind_eq_ok.mpr ⟨_, hstep, bind_eq_ok.mpr ⟨_, hrun, rfl⟩⟩

end RawBuffer

/-- **The buffer is a FIFO byte queue**: any sequence of operations, on any
content and capacity, returns the queue's answers and leaves its content, and
the offset stays within the used part. -/
theorem byteQueue_refined (b : RawBuffer) (ops : List BufferOp) (hwf : b.Wf)
    (hcap : b.cap < 2 ^ 31) (hsmall : SmallRun b.bytes ops) :
    ∃ b' answers, b.run ops = .ok (b', answers) ∧ b'.Wf
      ∧ b'.bytes = (ByteQueue.run b.bytes ops).1
      ∧ List.Forall₂ Answers answers (ByteQueue.run b.bytes ops).2 := by
  obtain ⟨b', answers, hrun, hgood, hbytes, hanswers⟩ :=
    RawBuffer.Good.run_refined ops ⟨hwf, Nat.lt_trans hcap (by decide)⟩ hsmall
  exact ⟨b', answers, hrun, hgood.wf, hbytes, hanswers⟩

/-- Three unread bytes between stale ones; the write slides them down. -/
theorem byteQueue_refined_at :
    let b : RawBuffer := ⟨List.replicate 10 9 ++ [1, 2, 3, 8], 13, 10, -1, false⟩
    let ops : List BufferOp := [.write [4, 5, 6, 7], .cut 2, .append [8], .peek 9, .read 3]
    ∃ b' answers, b.run ops = .ok (b', answers) ∧ b'.Wf
      ∧ b'.bytes = (ByteQueue.run b.bytes ops).1
      ∧ List.Forall₂ Answers answers (ByteQueue.run b.bytes ops).2 := by
  intro b ops
  refine byteQueue_refined b ops ⟨by decide, by decide, by decide⟩ (by decide) ?_
  exact ⟨by decide, by decide, by decide, by decide, by decide, trivial⟩

/-! ## §4. The buffer of the codecs. -/

theorem IoBuffer.bytes_write_eq {b : RawBuffer} {io : IoBuffer} {p : List UInt8} (hb : b.Good)
    (hsame : b.bytes = io.bytes) (hp : b.bytes.length + p.length < 2 ^ 31) :
    ∃ b', b.write p = .ok (b', p.length) ∧ b'.bytes = (io.write p).bytes := by
  obtain ⟨b', hok, hext⟩ := RawBuffer.write_extended hb.wf (hb.sized hp)
  exact ⟨b', hok, by rw [hext.bytes, bytes_write, hsame]⟩

theorem IoBuffer.bytes_append_eq {b : RawBuffer} {io : IoBuffer} {data : List UInt8} (hb : b.Good)
    (hsame : b.bytes = io.bytes) (hdata : b.bytes.length + data.length < 2 ^ 31) :
    ∃ b', b.append data = .ok b' ∧ b'.bytes = (io.append data).bytes := by
  obtain ⟨b', hok, hext⟩ := RawBuffer.append_extended hb.wf (hb.sized hdata)
  exact ⟨b', hok, by rw [hext.bytes, bytes_append, hsame]⟩

end Mosn.Network
