/-
  Mosn.Network.WriteLoop
  **WRITES AND THE WRITE LOOP OF A CONNECTION** (`Write`, `startWriteLoop`,
  `doWrite`, `doWriteIo` and `writeBufLen` of `pkg/network/connection.go`,
  `WriteTo` of `pkg/network/buffer/iobuffer.go`).

  Any number of goroutines call `Write`.  Under the lock a call appends its
  buffers to the write buffer, and wakes the write loop by a token in
  `writeBufferChan`, which has room for one: it looks at the length of the
  channel first, and the loop takes tokens out without the lock.  The loop
  drains the write buffer into the socket, and looks at its length between the
  locked sections.

  The model is a step relation at the granularity of lock, channel and socket
  operations, for a connection that is started, not closed and not
  transferred; the socket accepts any part of what it is given, or times out.

    • `writes_sound` — the order of the bytes, the free send, the wake-up.

  Buffers are lists of bytes: an `IoBuffer` is a queue
  (`Mosn.Network.byteQueue_refined`).  A nil `writeBuffer` is an empty one: the
  pool gives an empty buffer, and `writeBufLen` is 0 for `nil`.
-/
import Mosn.Lib.Transition
import Mosn.Types.Exception

namespace Mosn.Network.WriteLoop

open Mosn.Lib
open Mosn.Types (FilterStatus)

/-! ## §1. The state. -/

/-- The buffers of a call of `Write`; some may be `nil`. -/
abbrev Buffers := List (Option (List UInt8))

/-- The bytes of a call. -/
def payload (buffers : Buffers) : List UInt8 := (buffers.map fun buf => buf.getD []).flatten

/-- How far a call is that holds the lock: it has to append the rest of its
buffers and then to look at the length of the channel; it has found 0 and is
about to send; it is about to unlock. -/
inductive CallStage where
  | appending (rest : Buffers)
  | sending
  | unlocking
  deriving DecidableEq

/-- How far the loop is while it holds the lock: in the loop of `WriteTo`, or
about to unlock. -/
inductive LoopStage where
  | writing
  | unlocking
  deriving DecidableEq

/-- Who holds `writeBufferMux`.  The calls of `Write` that do not are all
alike. -/
inductive Holder where
  | call (stage : CallStage)
  | loop (stage : LoopStage)
  deriving DecidableEq

/-- Where the write loop is: at its `select`; about to evaluate
`c.writeBufLen() > 0`, as the first thing in `doWriteIo` or after a `Write`;
about to lock; in the locked section; back in `doWrite`. -/
inductive LoopPc where
  | selecting
  | testing
  | locking
  | holding
  | measuring
  deriving Repr, DecidableEq

/-- Inside `doWriteIo` or about to enter it. -/
def LoopPc.inDoWriteIo : LoopPc → Bool
  | .selecting => false
  | .testing => true
  | .locking => true
  | .holding => true
  | .measuring => false

/-- The connection; `calls` wait for the lock.  For the statements:
`taken` has what was written, by the calls in the order in which they took the
lock, and `sent` what the socket was handed. -/
structure Conn where
  calls : List Buffers
  holder : Option Holder
  writeBuffer : List UInt8
  writeBufferChan : Bool
  loop : LoopPc
  taken : List (List UInt8)
  sent : List UInt8
  deriving DecidableEq

def Conn.init : Conn := ⟨[], none, [], false, .selecting, [], []⟩

/-! ## §2. The steps. -/

inductive Event where
  /-- `Write` is called, and `OnWrite` returns. -/
  | call (buffers : Buffers) (status : FilterStatus)
  /-- One of the calls takes the lock. -/
  | lock (i : Nat)
  /-- `buf.WriteTo(c.writeBuffer.Br)`. -/
  | append
  /-- `len(c.writeBufferChan) == 0`. -/
  | test
  /-- `c.writeBufferChan <- true`. -/
  | send
  /-- `c.writeBufferMux.Unlock()`, in `Write`. -/
  | unlock
  /-- `<-c.writeBufferChan`. -/
  | receive
  /-- `c.writeBufLen() > 0`. -/
  | check
  /-- `c.writeBufferMux.Lock()`, in `doWriteIo`. -/
  | loopLock
  /-- The socket accepts `m` bytes. -/
  | socket (m : Nat) (timeout : Bool)
  /-- `c.writeBufferMux.Unlock()`, in `doWriteIo`. -/
  | loopUnlock
  /-- `c.writeBufLen()` for the statistics. -/
  | stats
  deriving DecidableEq

def step (s : Conn) : Event → Option Conn
  | .call buffers .continue_ => some { s with calls := s.calls ++ [buffers] }
  | .call _ .stopIteration => some s
  | .lock i =>
    match s.holder, s.calls[i]? with
    | none, some buffers =>
      some { s with
        calls := s.calls.eraseIdx i
        holder := some (.call (.appending buffers))
        taken := s.taken ++ [payload buffers] }
    | _, _ => none
  | .append =>
    match s.holder with
    | some (.call (.appending (buf :: rest))) =>
      some { s with
        writeBuffer := s.writeBuffer ++ buf.getD []
        holder := some (.call (.appending rest)) }
    | _ => none
  | .test =>
    match s.holder with
    | some (.call (.appending [])) =>
      some { s with
        holder := some (.call (if s.writeBufferChan then .unlocking else .sending)) }
    | _ => none
  | .send =>
    match s.holder with
    | some (.call .sending) =>
      -- a send on a full channel blocks
      if s.writeBufferChan then none
      else some { s with writeBufferChan := true, holder := some (.call .unlocking) }
    | _ => none
  | .unlock =>
    match s.holder with
    | some (.call .unlocking) => some { s with holder := none }
    | _ => none
  | .receive =>
    if s.loop = .selecting ∧ s.writeBufferChan = true then
      some { s with writeBufferChan := false, loop := .testing }
    else none
  | .check =>
    if s.loop = .testing ∧ s.holder = none then
      some { s with loop := if s.writeBuffer = [] then .measuring else .locking }
    else none
  | .loopLock =>
    if s.loop = .locking ∧ s.holder = none then
      some { s with
        holder := some (.loop (if s.writeBuffer = [] then .unlocking else .writing))
        loop := .holding }
    else none
  | .socket m timeout =>
    match s.holder with
    | some (.loop .writing) =>
      if m ≤ s.writeBuffer.length then
        some { s with
          writeBuffer := s.writeBuffer.drop m
          sent := s.sent ++ s.writeBuffer.take m
          -- `WriteTo` returns on an error, on 0 bytes and on all of them
          holder := some (.loop (if timeout ∨ m = 0 ∨ m = s.writeBuffer.length then .unlocking
            else .writing)) }
      else none
    | _ => none
  | .loopUnlock =>
    match s.holder with
    -- with or without a timeout the loop goes on to test the length
    | some (.loop .unlocking) => some { s with holder := none, loop := .testing }
    | _ => none
  | .stats =>
    if s.loop = .measuring ∧ s.holder = none then some { s with loop := .selecting } else none

def Step (s : Conn) (e : Event) (t : Conn) : Prop := step s e = some t

/-! ## §3. What holds. -/

/-- What the holder of the lock has still to append. -/
def Conn.pending (s : Conn) : List UInt8 :=
  match s.holder with
  | some (.call (.appending rest)) => payload rest
  | _ => []

/-- A call of `Write` holds the lock and has not come to its send, or past
it. -/
def Conn.willSend (s : Conn) : Bool :=
  match s.holder with
  | some (.call (.appending _)) => true
  | some (.call .sending) => true
  | _ => false

/-- What is to hold in every state: the bytes handed to the socket are the
first of those written, in the order in which the calls took the lock; a send
under the lock does not block; if there is something in the write buffer, then
there is a token for the loop, or the loop is in `doWriteIo` or about to enter
it, or the call that holds the lock is yet to send. -/
structure Sound (s : Conn) : Prop where
  inOrder : s.sent <+: s.taken.flatten
  send : s.holder = some (.call .sending) → ∃ t, Step s .send t
  awake : s.writeBuffer ≠ [] →
    s.writeBufferChan = true ∨ s.loop.inDoWriteIo = true ∨ s.willSend = true

/-- The invariant: what was sent, what is in the buffer and what the holder of
the lock has to append are together what was written. -/
@[local grind cases]
structure Inv (s : Conn) : Prop where
  queue : s.sent ++ s.writeBuffer ++ s.pending = s.taken.flatten
  room : s.holder = some (.call .sending) → s.writeBufferChan = false
  holding : ∀ stage, s.holder = some (.loop stage) → s.loop = .holding
  awake : s.writeBuffer ≠ [] →
    s.writeBufferChan = true ∨ s.loop.inDoWriteIo = true ∨ s.willSend = true

variable {s t : Conn} {e : Event}

theorem payload_cons (buf : Option (List UInt8)) (rest : Buffers) :
    payload (buf :: rest) = buf.getD [] ++ payload rest :=
  rfl

theorem Inv.sound (h : Inv s) : Sound s where
  inOrder := by
    rw [← h.queue, List.append_assoc]
    exact List.prefix_append _ _
  send := by
    intro hsending
    refine ⟨{ s with writeBufferChan := true, holder := some (.call .unlocking) }, ?_⟩
    simp only [Step, step, hsending, h.room hsending, Bool.false_eq_true, if_false]
  awake := h.awake

/-! ### The steps under the lock, read off. -/

variable {i m : Nat} {timeout : Bool} {es : List Event}

theorem step_lock (h : Step s (.lock i) t) : s.holder = none ∧ ∃ buffers, t = { s with
      calls := s.calls.eraseIdx i
      holder := some (.call (.appending buffers))
      taken := s.taken ++ [payload buffers] } := by
  simp only [Step, step] at h
  grind

theorem step_append (h : Step s .append t) :
    ∃ buf rest, s.holder = some (.call (.appending (buf :: rest))) ∧ t = { s with
      writeBuffer := s.writeBuffer ++ buf.getD []
      holder := some (.call (.appending rest)) } := by
  simp only [Step, step] at h
  grind

theorem step_test (h : Step s .test t) : s.holder = some (.call (.appending [])) ∧ t = { s with
      holder := some (.call (if s.writeBufferChan then .unlocking else .sending)) } := by
  simp only [Step, step] at h
  grind

theorem step_send (h : Step s .send t) : s.holder = some (.call .sending)
      ∧ t = { s with writeBufferChan := true, holder := some (.call .unlocking) } := by
  simp only [Step, step] at h
  grind

theorem step_unlock (h : Step s .unlock t) :
    s.holder = some (.call .unlocking) ∧ t = { s with holder := none } := by
  simp only [Step, step] at h
  grind

theorem step_socket (h : Step s (.socket m timeout) t) :
    s.holder = some (.loop .writing) ∧ ∃ stage, t = { s with
      writeBuffer := s.writeBuffer.drop m
      sent := s.sent ++ s.writeBuffer.take m
      holder := some (.loop stage) } := by
  simp only [Step, step] at h
  grind

theorem step_loopUnlock (h : Step s .loopUnlock t) :
    s.holder = some (.loop .unlocking) ∧ t = { s with holder := none, loop := .testing } := by
  simp only [Step, step] at h
  grind

/-! ### What the holder owes. -/

theorem owes_nothing (h : ∀ rest, s.holder ≠ some (.call (.appending rest)))
    (hsending : s.holder ≠ some (.call .sending)) : s.pending = [] ∧ s.willSend = false := by
  unfold Conn.pending Conn.willSend
  constructor
  · split
    · rename_i rest hholder
      exact absurd hholder (h rest)
    · rfl
  · grind

theorem Inv.queued (h : Inv s) (hpending : s.pending = []) :
    s.sent ++ s.writeBuffer ++ [] = s.taken.flatten :=
  hpending ▸ h.queue

/-! ### The invariant. -/

theorem Inv.lock (h : Inv s) (hstep : Step s (.lock i) t) : Inv t := by
  obtain ⟨hholder, buffers, rfl⟩ := step_lock hstep
  have hnothing := owes_nothing (s := s) (by simp [hholder]) (by simp [hholder])
  refine ⟨?_, ?_, ?_, ?_⟩
  · show s.sent ++ s.writeBuffer ++ payload buffers = (s.taken ++ [payload buffers]).flatten
    rw [List.flatten_append, List.flatten_singleton, ← h.queued hnothing.1, List.append_nil]
  · intro hsending
    cases hsending
  · intro stage hstage
    cases hstage
  · intro _
    exact Or.inr (Or.inr rfl)

theorem Inv.append (h : Inv s) (hstep : Step s .append t) : Inv t := by
  obtain ⟨buf, rest, hholder, rfl⟩ := step_append hstep
  have hpending : s.pending = buf.getD [] ++ payload rest := by
    rw [Conn.pending, hholder]
    exact payload_cons buf rest
  have hqueue := h.queue
  rw [hpending] at hqueue
  refine ⟨?_, ?_, ?_, ?_⟩
  · show s.sent ++ (s.writeBuffer ++ buf.getD []) ++ payload rest = s.taken.flatten
    rw [← hqueue]
    simp only [List.append_assoc]
  · intro hsending
    cases hsending
  · intro stage hstage
    cases hstage
  · intro _
    exact Or.inr (Or.inr rfl)

theorem Inv.test (h : Inv s) (hstep : Step s .test t) : Inv t := by
  obtain ⟨hholder, rfl⟩ := step_test hstep
  have hqueue := h.queued (by rw [Conn.pending, hholder]; rfl)
  cases hchan : s.writeBufferChan with
  | true =>
    refine ⟨hqueue, ?_, ?_, fun _ => Or.inl rfl⟩
    · intro hsending
      cases hsending
    · intro stage hstage
      cases hstage
  | false =>
    refine ⟨hqueue, fun _ => rfl, ?_, fun _ => Or.inr (Or.inr rfl)⟩
    intro stage hstage
    cases hstage

theorem Inv.send (h : Inv s) (hstep : Step s .send t) : Inv t := by
  obtain ⟨hholder, rfl⟩ := step_send hstep
  refine ⟨h.queued (by rw [Conn.pending, hholder]), ?_, ?_, fun _ => Or.inl rfl⟩
  · intro hsending
    cases hsending
  · intro stage hstage
    cases hstage

/-- The lock is given back: the bytes of the call have their token, or the
loop has taken it and will find them. -/
theorem Inv.unlock (h : Inv s) (hstep : Step s .unlock t) : Inv t := by
  obtain ⟨hholder, rfl⟩ := step_unlock hstep
  have hnothing := owes_nothing (s := s) (by simp [hholder]) (by simp [hholder])
  refine ⟨h.queued hnothing.1, ?_, ?_, ?_⟩
  · intro hsending
    cases hsending
  · intro stage hstage
    cases hstage
  · grind

theorem Inv.socket (h : Inv s) (hstep : Step s (.socket m timeout) t) : Inv t := by
  obtain ⟨hholder, stage, rfl⟩ := step_socket hstep
  have hnothing := owes_nothing (s := s) (by simp [hholder]) (by simp [hholder])
  have hloop : s.loop = .holding := h.holding _ hholder
  refine ⟨?_, ?_, fun _ _ => hloop, ?_⟩
  · show s.sent ++ s.writeBuffer.take m ++ s.writeBuffer.drop m ++ [] = s.taken.flatten
    rw [List.append_assoc s.sent, List.take_append_drop, h.queued hnothing.1]
  · intro hsending
    cases hsending
  · grind

theorem Inv.loopUnlock (h : Inv s) (hstep : Step s .loopUnlock t) : Inv t := by
  obtain ⟨hholder, rfl⟩ := step_loopUnlock hstep
  have hnothing := owes_nothing (s := s) (by simp [hholder]) (by simp [hholder])
  refine ⟨h.queued hnothing.1, ?_, ?_, fun _ => Or.inr (Or.inl rfl)⟩
  · intro hsending
    cases hsending
  · intro stage hstage
    cases hstage

/-- The loop takes the token, with or without someone in the locked section of
`Write`; it will test the length. -/
theorem Inv.receive (h : Inv s) (hstep : Step s .receive t) : Inv t := by
  obtain ⟨⟨hloop, -⟩, ht⟩ := Option.ite_none_right_eq_some.mp hstep
  cases ht
  refine ⟨h.queue, fun _ => rfl, ?_, fun _ => Or.inr (Or.inl rfl)⟩
  grind

theorem Inv.check (h : Inv s) (hstep : Step s .check t) : Inv t := by
  obtain ⟨⟨-, hholder⟩, ht⟩ := Option.ite_none_right_eq_some.mp hstep
  cases ht
  refine ⟨h.queue, h.room, ?_, ?_⟩
  · intro stage hstage
    exact absurd (hholder.symm.trans hstage) (by simp)
  · intro hbuffer
    refine Or.inr (Or.inl ?_)
    show (if s.writeBuffer = [] then LoopPc.measuring else LoopPc.locking).inDoWriteIo = true
    rw [if_neg hbuffer]
    rfl

theorem Inv.loopLock (h : Inv s) (hstep : Step s .loopLock t) : Inv t := by
  obtain ⟨⟨-, hholder⟩, ht⟩ := Option.ite_none_right_eq_some.mp hstep
  cases ht
  have hnothing := owes_nothing (s := s) (by simp [hholder]) (by simp [hholder])
  refine ⟨h.queued hnothing.1, ?_, fun _ _ => rfl, fun _ => Or.inr (Or.inl rfl)⟩
  intro hsending
  cases hsending

theorem Inv.stats (h : Inv s) (hstep : Step s .stats t) : Inv t := by
  obtain ⟨⟨hloop, hholder⟩, ht⟩ := Option.ite_none_right_eq_some.mp hstep
  cases ht
  refine ⟨h.queue, h.room, ?_, ?_⟩
  · intro stage hstage
    exact absurd (hholder.symm.trans hstage) (by simp)
  · intro hbuffer
    rcases h.awake hbuffer with htoken | hinside | hsend
    · exact Or.inl htoken
    · rw [hloop] at hinside
      cases hinside
    · exact Or.inr (Or.inr hsend)

/-- **Every step keeps the invariant.** -/
theorem Inv.step (h : Inv s) (hstep : Step s e t) : Inv t := by
  cases e with
  | call buffers status =>
    cases status with
    | continue_ =>
      cases hstep
      exact ⟨h.queue, h.room, h.holding, h.awake⟩
    | stopIteration =>
      cases hstep
      exact h
  | lock i => exact h.lock hstep
  | append => exact h.append hstep
  | test => exact h.test hstep
  | send => exact h.send hstep
  | unlock => exact h.unlock hstep
  | receive => exact h.receive hstep
  | check => exact h.check hstep
  | loopLock => exact h.loopLock hstep
  | socket m timeout => exact h.socket hstep
  | loopUnlock => exact h.loopUnlock hstep
  | stats => exact h.stats hstep

theorem Inv.init : Inv Conn.init where
  queue := rfl
  room := by
    intro hsending
    cases hsending
  holding := by
    intro stage hstage
    cases hstage
  awake := by
    intro hbuffer
    exact absurd rfl hbuffer

theorem inv_of_run (hrun : Run Step Conn.init es s) : Inv s :=
  hrun.invariant Inv (fun _ _ _ h hstep => h.step hstep) .init

/-! ## §4. Writes. -/

/-- **Writes are neither lost nor reordered, and do not block**: along every
interleaving of any number of calls of `Write` with the write loop, whatever
the socket accepts. -/
theorem writes_sound (es : List Event) : EveryState Step Sound Conn.init es := by
  intro before after s _ hrun
  exact (inv_of_run hrun).sound

/-- One call of `Write` has appended its byte and found no token: the buffer
is not empty, and neither is there a token nor has the loop left its
`select`. -/
theorem append_before_send :
    ∃ s, Run Step Conn.init [.call [some [7]] .continue_, .lock 0, .append, .test] s
      ∧ s.writeBuffer ≠ [] ∧ s.writeBufferChan = false ∧ s.loop.inDoWriteIo = false
      ∧ s.loop = .selecting :=
  ⟨_, run_of_runSteps (f := step) rfl, by decide, rfl, rfl, rfl⟩

/-- A connection at rest has sent what was written. -/
theorem sent_all_of_quiescent (hrun : Run Step Conn.init es s)
    (hholder : s.holder = none) (htoken : s.writeBufferChan = false) (hloop : s.loop = .selecting) :
    s.sent = s.taken.flatten := by
  have h := inv_of_run hrun
  have hnothing := owes_nothing (s := s) (by simp [hholder]) (by simp [hholder])
  have hbuffer : s.writeBuffer = [] := by
    by_contra hbuffer
    have hawake := h.awake hbuffer
    rw [htoken, hloop, hnothing.2] at hawake
    revert hawake
    decide
  grind

theorem sent_all_of_one_write :
    ∃ s, Run Step Conn.init [.call [some [7]] .continue_, .lock 0, .append, .test, .send, .unlock,
        .receive, .check, .loopLock, .socket 1 false, .loopUnlock, .check, .stats] s
      ∧ s.sent = s.taken.flatten :=
  have hrun := run_of_runSteps (f := step) (s := Conn.init) rfl
  ⟨_, hrun, sent_all_of_quiescent hrun rfl rfl rfl⟩

end Mosn.Network.WriteLoop
