/-
  Mosn.Network.TransferLoops
  **THE LOOPS OF A CONNECTION AT A HAND-OVER** (`Start`, `startReadLoop` and
  `startWriteLoop` in `pkg/network/connection.go`, `transferRead` in
  `transfer.go`).

  The read loop leaves itself for a hand-over, and there is no way back.  The
  write loop goes on if the answer is `transferErr`.

    • `loops_work_iff` — both loops work exactly before the first hand-over.
-/
import Mosn.Network.Transfer

namespace Mosn.Network.TransferLoops

open Mosn.Lib
open Mosn.Network.Transfer (transferErr transferRecvID)

/-! ## §1. Model. -/

/-- How a call of `transferRead` goes; last, the bytes that come as an answer. -/
inductive Attempt where
  | dialError
  | notTCPConn
  | sendTypeError
  | sendDataError
  | answered (stream : List UInt8)

/-- The id that `transferRead` returns. -/
def transferRead : Attempt → Nat
  | .answered stream => transferRecvID stream
  | .dialError | .notTCPConn | .sendTypeError | .sendDataError => transferErr

def transferNotify : Nat := 1

/-- Where `startReadLoop` is: in its loop; at the first send to `transferChan`;
in `transferRead`; at the second send. -/
inductive ReadLoop where
  | looping
  | notifying
  | transferring
  | answering (id : Nat)
  | returned
  deriving DecidableEq

/-- Where `startWriteLoop` is: in its loop; at the second receive from
`transferChan`; in the loop behind `transfer`. -/
inductive WriteLoop where
  | looping
  | notified
  | transferring (id : Nat)
  | returned
  deriving DecidableEq

/-- A connection that is started: where the loops are and what they look at.
Channels are closed or not, `transferTime` is set or not, `readBuffer` is `nil`
or not.  A goroutine survives one panic.  `attempts` records the hand-overs, and
is never read: the id, or `none` for a panic. -/
structure Connection where
  readLoop : ReadLoop := .looping
  writeLoop : WriteLoop := .looping
  stopChan : Bool := false
  internalStopChan : Bool := false
  transferTime : Bool := false
  readEnabled : Bool := true
  readBuffer : Bool := false
  readRestarted : Bool := false
  writeRestarted : Bool := false
  attempts : List (Option Nat) := []

/-- What `doRead` or `doWrite` does; `skipped` if a token of `readEnabledChan`
is taken instead, or a write has timed out. -/
inductive IoResult where
  | skipped
  | done
  | failed
  | panicked

inductive Event where
  /-- `stopChan` is closed by an upgrade. -/
  | stop
  | close
  | setReadEnabled (enabled : Bool)
  /-- A turn of the read loop; whether `transferTime` is over. -/
  | read (expired : Bool) (result : IoResult)
  | notify
  | transferRead (attempt : Attempt)
  | answer
  | write (result : IoResult)

namespace Connection

/-- The `recover` of `Start`.  A second panic ends the process. -/
def restartRead (c : Connection) : Option Connection :=
  if c.readRestarted then none
  else some { c with readLoop := .looping, transferTime := false, readRestarted := true }

/-- `doRead`, and what the loop does with its error. -/
def doRead (c : Connection) : IoResult → Option Connection
  | .skipped => some c
  | .done => some { c with readBuffer := true }
  | .failed => some { c with readBuffer := false, internalStopChan := true, readLoop := .returned }
  | .panicked => { c with readBuffer := true }.restartRead

/-- A turn of the read loop. -/
def readTurn (c : Connection) (expired : Bool) (result : IoResult) : Option Connection :=
  if c.internalStopChan then some { c with readLoop := .returned }
  else if c.stopChan && c.transferTime && expired then some { c with readLoop := .notifying }
  else
    let c := { c with transferTime := c.transferTime || c.stopChan }
    if c.readEnabled then c.doRead result else some c

/-- A turn of the write loop that takes a token from `writeBufferChan`. -/
def writeTurn (c : Connection) (result : IoResult) : Option Connection :=
  match c.writeLoop, result with
  | .notified, _ | .returned, _ => none
  | .looping, .failed => some { c with internalStopChan := true, writeLoop := .returned }
  | .looping, .panicked =>
    if c.writeRestarted then none else some { c with writeRestarted := true }
  | _, _ => some (if c.internalStopChan then { c with writeLoop := .returned } else c)

/-- The write loop receives from `transferChan`. -/
def receive (c : Connection) (id : Nat) : Option Connection :=
  match c.writeLoop with
  | .looping => some { c with writeLoop := .notified }
  | .notified =>
    some { c with writeLoop := if id ≠ transferErr then .transferring id else .looping }
  | .transferring _ | .returned => none

def step (c : Connection) : Event → Option Connection
  | .stop => some { c with stopChan := true }
  | .close => some { c with internalStopChan := true }
  | .setReadEnabled enabled => some { c with readEnabled := enabled }
  | .read expired result => if c.readLoop = .looping then c.readTurn expired result else none
  | .write result => c.writeTurn result
  | .notify =>
    if c.readLoop = .notifying then { c with readLoop := .transferring }.receive transferNotify
    else none
  | .transferRead attempt =>
    if c.readLoop = .transferring then
      if c.readBuffer then
        let id := transferRead attempt
        some { c with readLoop := .answering id, attempts := c.attempts ++ [some id] }
      else { c with attempts := c.attempts ++ [none] }.restartRead
    else none
  | .answer =>
    match c.readLoop with
    | .answering id => { c with readLoop := .returned }.receive id
    | _ => none

def Step (c : Connection) (e : Event) (c' : Connection) : Prop := c.step e = some c'

/-! ## §2. Both loops. -/

/-- Where the write loop is as long as every hand-over fails. -/
def partner : ReadLoop → WriteLoop
  | .transferring | .answering _ => .notified
  | .looping | .notifying | .returned => .looping

/-- What is known of both loops while the connection is open. -/
structure Joint (c : Connection) : Prop where
  fresh : c.attempts = [] → c.readLoop ≠ .returned
  answers : ∀ id, c.readLoop = .answering id → some id ∈ c.attempts
  tried : c.attempts ≠ [] →
    c.readLoop = .notifying ∨ c.readLoop = .returned ∨ c.writeLoop ≠ .looping
  failed : (∀ r ∈ c.attempts, r = some transferErr) → c.writeLoop = partner c.readLoop

variable {c c' : Connection}

theorem Joint.congr (h : c.Joint) (hread : c'.readLoop = c.readLoop)
    (hwrite : c'.writeLoop = c.writeLoop) (hattempts : c'.attempts = c.attempts) : c'.Joint := by
  obtain ⟨hfresh, hanswers, htried, hfailed⟩ := h
  rw [← hread, ← hattempts] at hfresh hanswers
  rw [← hread, ← hwrite, ← hattempts] at htried hfailed
  exact ⟨hfresh, hanswers, htried, hfailed⟩

theorem readTurn_open {expired : Bool} {result : IoResult}
    (h : c.readTurn expired result = some c') (hread : c.readLoop = .looping)
    (hopen : c'.internalStopChan = false) :
    c.internalStopChan = false ∧ c'.writeLoop = c.writeLoop ∧ c'.attempts = c.attempts
      ∧ (c'.readLoop = .looping ∨ c'.readLoop = .notifying) := by
  unfold readTurn doRead restartRead at h
  grind

theorem writeTurn_open {result : IoResult} (h : c.writeTurn result = some c')
    (hopen : c'.internalStopChan = false) :
    c.internalStopChan = false ∧ c'.readLoop = c.readLoop ∧ c'.writeLoop = c.writeLoop
      ∧ c'.attempts = c.attempts := by
  unfold writeTurn at h
  grind

theorem receive_cases {id : Nat} (h : c.receive id = some c') :
    c'.internalStopChan = c.internalStopChan ∧ c'.readLoop = c.readLoop
      ∧ c'.attempts = c.attempts
      ∧ (c.writeLoop = .looping ∧ c'.writeLoop = .notified
        ∨ c.writeLoop = .notified
          ∧ c'.writeLoop = if id ≠ transferErr then .transferring id else .looping) := by
  unfold receive at h
  grind

theorem Joint.read (hc : c.Joint) (hread : c.readLoop = .looping)
    (hwrite : c'.writeLoop = c.writeLoop) (hattempts : c'.attempts = c.attempts)
    (hturn : c'.readLoop = .looping ∨ c'.readLoop = .notifying) : c'.Joint where
  fresh _ hreturned := by
    rw [hreturned] at hturn
    simp at hturn
  answers id hid := by
    rw [hid] at hturn
    simp at hturn
  tried htried := by
    rw [hattempts] at htried
    have hheard := hc.tried htried
    rw [hread] at hheard
    rw [hwrite]
    exact Or.inr (Or.inr (by simpa using hheard))
  failed hall := by
    rw [hattempts] at hall
    have hpartner := hc.failed hall
    rw [hread] at hpartner
    rw [hwrite, hpartner]
    rcases hturn with hturn | hturn <;> rw [hturn] <;> rfl

theorem Joint.notify (hc : c.Joint) (hread : c.readLoop = .notifying)
    (h : { c with readLoop := .transferring }.receive transferNotify = some c') : c'.Joint := by
  obtain ⟨-, hread', hattempts, hwrite⟩ := receive_cases h
  refine ⟨fun _ => by simp [hread'], fun id hid => by simp [hread'] at hid, fun _ => ?_, ?_⟩
  · right
    right
    rcases hwrite with ⟨-, hwrite⟩ | ⟨-, hwrite⟩ <;> rw [hwrite] <;> decide
  · intro hall
    rw [hattempts] at hall
    have hpartner : c.writeLoop = .looping := by
      rw [hc.failed hall, hread]
      rfl
    rcases hwrite with ⟨-, hwrite⟩ | ⟨hnotified, -⟩
    · rw [hwrite, hread']
      rfl
    · exact absurd (hpartner.symm.trans hnotified) (by decide)

theorem Joint.answer {id : Nat} (hc : c.Joint) (hread : c.readLoop = .answering id)
    (h : { c with readLoop := .returned }.receive id = some c') : c'.Joint := by
  obtain ⟨-, hread', hattempts, hwrite⟩ := receive_cases h
  have hmem : some id ∈ c'.attempts := by
    rw [hattempts]
    exact hc.answers id hread
  refine ⟨fun hnone => absurd hmem (by simp [hnone]), fun id hid => by simp [hread'] at hid,
    fun _ => Or.inr (Or.inl hread'), fun hall => ?_⟩
  have hid : id = transferErr := Option.some.inj (hall _ hmem)
  rw [hattempts] at hall
  have hpartner : c.writeLoop = .notified := by
    rw [hc.failed hall, hread]
    rfl
  rcases hwrite with ⟨hlooping, -⟩ | ⟨-, hwrite⟩
  · exact absurd (hpartner.symm.trans hlooping) (by decide)
  · rw [hwrite, hread', if_neg (not_not.mpr hid)]
    rfl

theorem Joint.heard (hc : c.Joint) (hread : c.readLoop = .transferring) :
    c.writeLoop ≠ .looping := by
  by_cases hnone : c.attempts = []
  · rw [hc.failed (by simp [hnone]), hread]
    decide
  · have hheard := hc.tried hnone
    rw [hread] at hheard
    simpa using hheard

theorem joint_step {e : Event} (h : c.Step e c')
    (hc : c.internalStopChan = false → c.Joint) (hopen : c'.internalStopChan = false) :
    c'.Joint := by
  unfold Step step at h
  cases e with
  | stop | setReadEnabled =>
    cases h
    exact (hc hopen).congr rfl rfl rfl
  | close =>
    cases h
    cases hopen
  | read expired result =>
    obtain ⟨hread, h⟩ := Option.ite_none_right_eq_some.mp h
    obtain ⟨hopen, hwrite, hattempts, hturn⟩ := readTurn_open h hread hopen
    exact (hc hopen).read hread hwrite hattempts hturn
  | write result =>
    obtain ⟨hopen, hread, hwrite, hattempts⟩ := writeTurn_open h hopen
    exact (hc hopen).congr hread hwrite hattempts
  | notify =>
    obtain ⟨hread, h⟩ := Option.ite_none_right_eq_some.mp h
    rw [(receive_cases h).1] at hopen
    exact (hc hopen).notify hread h
  | transferRead attempt =>
    obtain ⟨hread, h⟩ := Option.ite_none_right_eq_some.mp h
    split at h
    · -- the attempt has an id, which may be `transferErr`
      cases h
      have hheard := (hc hopen).heard hread
      refine ⟨by simp, fun id hid => ?_, fun _ => Or.inr (Or.inr hheard), fun hall => ?_⟩
      · cases hid
        simp
      · have hpartner := (hc hopen).failed fun r hr => hall r (List.mem_append_left _ hr)
        rwa [hread] at hpartner
    · -- `readBuffer` is nil, and the loop starts again after the panic
      obtain ⟨-, h⟩ := Option.ite_none_left_eq_some.mp h
      cases h
      have hheard := (hc hopen).heard hread
      refine ⟨by simp, by simp, fun _ => Or.inr (Or.inr hheard), fun hall => ?_⟩
      exact absurd (hall none (by simp)) (by simp)
  | answer =>
    cases hread : c.readLoop with
    | answering id =>
      simp only [hread] at h
      rw [(receive_cases h).1] at hopen
      exact (hc hopen).answer hread h
    | _ => simp [hread] at h

/-- **A hand-over leaves no read loop behind, however it goes.**  Between
hand-overs both loops of an open connection work exactly if there was none.
When all have failed the write loop still does. -/
theorem loops_work_iff {es : List Event} (hrun : Run Step {} es c)
    (hopen : c.internalStopChan = false) (hidle : c.readLoop = .looping ∨ c.readLoop = .returned) :
    (c.readLoop = .looping ∧ c.writeLoop = .looping ↔ c.attempts = [])
      ∧ ((∀ r ∈ c.attempts, r = some transferErr) → c.writeLoop = .looping) := by
  have hnew : ({} : Connection).Joint := ⟨by simp, by simp, by simp, fun _ => rfl⟩
  have hc := hrun.invariant (fun c => c.internalStopChan = false → c.Joint)
    (fun _ _ _ h hc => joint_step hc h) (fun _ => hnew) hopen
  have hfailed : (∀ r ∈ c.attempts, r = some transferErr) → c.writeLoop = .looping := by
    intro hall
    rw [hc.failed hall]
    rcases hidle with hidle | hidle <;> rw [hidle] <;> rfl
  refine ⟨⟨fun ⟨hread, hwrite⟩ => ?_, fun hnone => ?_⟩, hfailed⟩
  · by_contra htried
    have := hc.tried htried
    simp [hread, hwrite] at this
  · exact ⟨hidle.resolve_right (hc.fresh hnone), hfailed (by simp [hnone])⟩

/-- An upgrade; the connection is handed over, and nobody listens. -/
def failedDial : List Event :=
  [.read false .done, .stop, .read false .done, .read true .done, .notify, .transferRead .dialError,
    .answer]

/-- The write loop goes on after a failed hand-over. -/
theorem failedDial_writes : ∃ c, Run Step {} failedDial c ∧ c.writeLoop = .looping := by
  obtain ⟨c, hsteps, hopen, hread, hattempts⟩ : ∃ c, runSteps step {} failedDial = some c
      ∧ c.internalStopChan = false ∧ c.readLoop = .returned ∧ c.attempts = [some transferErr] :=
    ⟨_, rfl, rfl, rfl, rfl⟩
  have hrun := run_of_runSteps hsteps
  exact ⟨c, hrun, (loops_work_iff hrun hopen (Or.inr hread)).2 (by simp [hattempts])⟩

/-- **The read loop does not.** -/
theorem failedDial_reads_nothing : ∃ c, Run Step {} failedDial c ∧ c.internalStopChan = false
    ∧ c.attempts = [some transferErr] ∧ c.readLoop = .returned :=
  ⟨_, run_of_runSteps (f := step) rfl, rfl, rfl, rfl⟩

end Connection

end Mosn.Network.TransferLoops
