/-
  Mosn.Proxy.Dispatch
  **THE DISPATCHERS OF THE WORKER POOL** (`eventDispatch` and `eventProcess`
  of `pkg/proxy/event.go`, the calls of `workerPool.Offer` in
  `downstream.go` and `upstream.go`).

  Each worker has a control and a job channel, and one goroutine that takes
  events from them.  It looks into the control channel first and does not
  wait there; if that was empty it waits for either.  For every stream id it
  keeps a flag, whether the stream is done; events of streams without a flag
  or with a set one are dropped.

  Here any number of streams share the workers, and everything else takes
  turns with the dispatchers in every order: streams are made, producers offer
  events, other goroutines change what the streams know.  What a handler does
  to its stream is left open: the value of `upstreamProcessDone` that it
  leaves and the events that it offers are part of the action.

  `Offer` and the channels are in `pkg/sync`, which is not in the repository:
  an event goes to the worker of its `Source`, and both channels are queues.
-/
import Mosn.Lib.GoMap
import Mosn.Lib.Transition
import Mosn.Proxy.Event

namespace Mosn.Proxy.Dispatch

open Mosn.Lib Mosn.Types

/-! ## §1. Workers. -/

/-- A worker: its channels, the `streamMap` of its dispatcher, and whether the
dispatcher is at its second `select`. -/
structure Worker (κ : Type) where
  ctrlChan : List (Event κ) := []
  jobChan : List (Event κ) := []
  streamMap : GoMap GoString Bool := ∅
  polled : Bool := false

/-- An event that was processed: whether its handler was invoked, and the
value of its stream's `upstreamProcessDone` afterwards. -/
structure Record (κ : Type) where
  event : Event κ
  handled : Bool
  left : Bool

/-- The pool, and `upstreamProcessDone` of each stream that there is.  The last
two fields record what was offered and what was processed, and are never
read. -/
structure Pool (κ : Type) where
  worker : Nat → Worker κ := fun _ => {}
  upstreamProcessDone : κ → Option Bool := fun _ => none
  offered : List (Event κ) := []
  log : List (Record κ) := []

/-- What a handler does: the flag it leaves, and the events it offers. -/
structure Outcome where
  left : Bool
  offers : List (Direction × EventBody)

/-- The start event is offered by `newActiveStream` only. -/
def isStart : EventBody → Bool
  | .start => true
  | _ => false

/-- What can happen. -/
inductive Action (κ : Type) where
  /-- `newActiveStream`. -/
  | create (k : κ)
  /-- A producer offers an event. -/
  | offer (k : κ) (direction : Direction) (body : EventBody)
  /-- A goroutine outside of the pool changes what the stream knows. -/
  | change (k : κ) (done : Bool)
  /-- The first `select` finds the control channel empty. -/
  | poll (w : Nat)
  /-- The dispatcher takes a control event, in either `select`; or a job, in
  the second. -/
  | control (w : Nat) (outcome : Outcome)
  | job (w : Nat) (outcome : Outcome)

/-- `channel <- event`. -/
def Worker.push {κ : Type} (worker : Worker κ) (e : Event κ) : Worker κ :=
  match e.type with
  | .control => { worker with ctrlChan := worker.ctrlChan ++ [e] }
  | .normal => { worker with jobChan := worker.jobChan ++ [e] }

section System

variable {κ : Type} [DecidableEq κ] (streamID : κ → GoString) (shardOf : Int → Nat)

def event (k : κ) (direction : Direction) (body : EventBody) : Event κ :=
  ⟨direction, streamID k, k, body⟩

/-- The worker that `Source` picks; `Source` may panic. -/
def shard (e : Event κ) : Option Nat := e.source.toOption.map shardOf

/-- The worker of a stream: `Source` depends on the id only. -/
def home (k : κ) : Option Nat := shard shardOf (event streamID k .downstream .start)

namespace Pool

def modifyWorker (s : Pool κ) (w : Nat) (f : Worker κ → Worker κ) : Pool κ :=
  { s with worker := Function.update s.worker w (f (s.worker w)) }

def put (s : Pool κ) (w : Nat) (e : Event κ) : Pool κ :=
  { s.modifyWorker w (·.push e) with offered := s.offered ++ [e] }

/-- `workerPool.Offer` of an event of stream `k`. -/
def offer (s : Pool κ) (k : κ) (direction : Direction) (body : EventBody) : Option (Pool κ) :=
  (shard shardOf (event streamID k direction body)).map fun w =>
    s.put w (event streamID k direction body)

/-- One offer after the other. -/
def offerAll (s : Pool κ) (k : κ) : List (Direction × EventBody) → Option (Pool κ)
  | [] => some s
  | (direction, body) :: offers =>
    if isStart body then none
    else (s.offer streamID shardOf k direction body).bind fun s => s.offerAll k offers

/-- `streamMap[id] = value`, or `delete(streamMap, id)`. -/
def setEntry (s : Pool κ) (w : Nat) (id : GoString) : Option Bool → Pool κ
  | some value => s.modifyWorker w fun worker =>
    { worker with streamMap := worker.streamMap.insert id value }
  | none => s.modifyWorker w fun worker => { worker with streamMap := worker.streamMap.erase id }

def setDone (s : Pool κ) (k : κ) (done : Bool) : Pool κ :=
  { s with upstreamProcessDone := Function.update s.upstreamProcessDone k (some done) }

def record (s : Pool κ) (e : Event κ) (handled left : Bool) : Pool κ :=
  { s with log := s.log ++ [⟨e, handled, left⟩] }

/-- `upstreamProcessDone` of the event's stream. -/
def doneOf (s : Pool κ) (k : κ) : Bool := (s.upstreamProcessDone k).getD false

/-- `eventProcess` on worker `w`.  The flag of the map is set to what the
handler leaves; before it was false. -/
def eventProcess (s : Pool κ) (w : Nat) (e : Event κ) (outcome : Outcome) : Option (Pool κ) :=
  match e.body with
  | .start => some ((s.record e false (s.doneOf e.stream)).setEntry w e.streamID (some false))
  | .stop => some ((s.record e false (s.doneOf e.stream)).setEntry w e.streamID none)
  | _ =>
    if (s.worker w).streamMap.lookup e.streamID = some false then
      (((s.setDone e.stream outcome.left).record e true outcome.left).setEntry w e.streamID
        (some (false || outcome.left))).offerAll streamID shardOf e.stream outcome.offers
    else some (s.record e false (s.doneOf e.stream))

/-- `event = <-ctrlChan`, `event = <-jobChan`: what is left there. -/
def takeControl (s : Pool κ) (w : Nat) (rest : List (Event κ)) : Pool κ :=
  s.modifyWorker w fun worker => { worker with ctrlChan := rest, polled := false }

def takeJob (s : Pool κ) (w : Nat) (rest : List (Event κ)) : Pool κ :=
  s.modifyWorker w fun worker => { worker with jobChan := rest, polled := false }

/-- The dispatcher takes a control event, or a job. -/
def controlTurn (s : Pool κ) (w : Nat) (outcome : Outcome) : Option (Pool κ) :=
  match (s.worker w).ctrlChan with
  | e :: rest => (s.takeControl w rest).eventProcess streamID shardOf w e outcome
  | [] => none

def jobTurn (s : Pool κ) (w : Nat) (outcome : Outcome) : Option (Pool κ) :=
  match (s.worker w).jobChan with
  | e :: rest =>
    if (s.worker w).polled then
      (s.takeJob w rest).eventProcess streamID shardOf w e outcome
    else none
  | [] => none

/-- One turn of anyone. -/
def step (s : Pool κ) : Action κ → Option (Pool κ)
  | .create k =>
    if s.upstreamProcessDone k = none then
      (s.setDone k false).offer streamID shardOf k .downstream .start
    else none
  | .offer k direction body =>
    if s.upstreamProcessDone k = none ∨ isStart body = true then none
    else s.offer streamID shardOf k direction body
  | .change k done => if s.upstreamProcessDone k = none then none else some (s.setDone k done)
  | .poll w =>
    if (s.worker w).ctrlChan.isEmpty then
      some (s.modifyWorker w fun worker => { worker with polled := true })
    else none
  | .control w outcome => s.controlTurn streamID shardOf w outcome
  | .job w outcome => s.jobTurn streamID shardOf w outcome

/-- `step` as a relation. -/
def Step (s : Pool κ) (a : Action κ) (s' : Pool κ) : Prop :=
  s.step streamID shardOf a = some s'

end Pool

end System

end Mosn.Proxy.Dispatch
