/-
  Mosn.HealthCheck.Heartbeat
  **A SESSION THAT SENDS HEARTBEATS** (`sofarpcHealthCheckSession` of
  `pkg/upstream/healthcheck/sofarpchealthchecker.go`, with Bolt V1).

  Its handlers run on three kinds of goroutines at once: those of its two
  timers, the read loop of its connection, and the one that called `Start`.
  A goroutine is a list of operations over the session (`Mosn.Lib.Threads`):

      onInterval     no client: connect; then a heartbeat, and start the
                     timeout timer
      onTimeout      close the client, count a failure, start the interval
                     timer
      response       count it, stop the timeout timer, start the interval
                     timer
      reset          as a failed response, unless it was expected

  What the network does is an event, or the choice an operation is given
  (`Oracle`).  The callbacks of a result return.
-/
import Mosn.HealthCheck.Session
import Mosn.HealthCheck.Timer

namespace Mosn.HealthCheck

open Mosn.Lib

/-! ## §1. The operations. -/

/-- The two timers of a session. -/
inductive TimerName where
  | interval
  | timeout
  deriving Repr, DecidableEq

inductive Op where
  | timer (t : TimerName) (op : TimerOp)
  -- `onInterval`, in the order of its effects
  | onInterval
  | connect
  | createCodecClient
  | clearExpectReset
  | newStream
  | sessionOnInterval
  | attempt
  -- `onTimeout`
  | onTimeout
  | closeClient
  | clearClient
  | sessionOnTimeout
  -- the stream of a heartbeat
  | setResponseStatus (status : Int16)
  | onResponseComplete
  | onResetStream
  | handleSuccess
  | handleFailure (fType : FailureType)
  deriving Repr, DecidableEq

/-- `sofarpcHealthCheckSession`.  Of its client the model keeps whether there is
one; `sent` counts the heartbeats, `active` those still in `ActiveRequests`. -/
structure Heartbeat (κ : Type) where
  session : HealthCheckSession κ
  timers : TimerName → Timer
  client : Bool
  responseStatus : Int16
  expectReset : Bool
  sent : Nat
  active : Nat

/-- What is not the session's to decide: whether a connect succeeds, which ready
case a `select` takes, and how many requests a client that is closed resets. -/
structure Oracle where
  connected : Bool
  preferTick : Bool
  resets : Nat
  deriving Repr, DecidableEq

/-- `newTimer(shcs.onInterval)`, `newTimer(shcs.onTimeout)`. -/
def callback : TimerName → List Op
  | .interval => [.onInterval]
  | .timeout => [.onTimeout]

/-- `sofarpc.RESPONSE_STATUS_SUCCESS`. -/
def responseStatusSuccess : Int16 := 0

namespace Heartbeat

variable {κ : Type}

def isHealthCheckSucceeded (s : Heartbeat κ) : Bool := s.responseStatus == responseStatusSuccess

def setTimer (s : Heartbeat κ) (t : TimerName) (x : Timer) : Heartbeat κ :=
  { s with timers := Function.update s.timers t x }

/-- The end of `handleSuccess` and of `handleFailure`. -/
def restart : List Op := [.timer .timeout .stop, .timer .interval .start]

/-- One operation of a goroutine. -/
def exec (o : Oracle) (s : Heartbeat κ) : Op → Except Halt (Effect (Heartbeat κ) Op)
  | .timer t op =>
    ((s.timers t).exec o.preferTick (callback t) (.timer t) op).map fun e =>
      { shared := s.setTimer t e.shared, calls := e.calls, spawned := e.spawned }
  | .onInterval =>
    if s.client then .ok { shared := s, calls := [.newStream, .sessionOnInterval] }
    else .ok { shared := s, calls := [.connect] }
  | .connect =>
    if o.connected then
      .ok { shared := s,
            calls := [.createCodecClient, .clearExpectReset, .newStream, .sessionOnInterval] }
    else .ok { shared := s, calls := [.handleFailure .active] }
  | .createCodecClient => .ok { shared := { s with client := true } }
  | .clearExpectReset => .ok { shared := { s with expectReset := false } }
  | .newStream =>
    -- the method of a client that another goroutine has set to nil
    if s.client then .ok { shared := { s with sent := s.sent + 1, active := s.active + 1 } }
    else .error .panic
  | .sessionOnInterval => .ok { shared := s, calls := [.timer .timeout .start, .attempt] }
  | .attempt =>
    let stats := s.session.healthChecker.stats
    .ok { shared := { s with
      session.healthChecker.stats := { stats with attempt := stats.attempt + 1 } } }
  | .onTimeout =>
    .ok { shared := { s with expectReset := true },
          calls := [.closeClient, .clearClient, .sessionOnTimeout] }
  | .closeClient =>
    if s.client then
      .ok { shared := { s with active := s.active - min o.resets s.active },
            calls := .replicate (min o.resets s.active) .onResetStream }
    else .error .panic
  | .clearClient => .ok { shared := { s with client := false } }
  | .sessionOnTimeout =>
    .ok { shared := { s with session := s.session.setUnhealthy .network },
          calls := [.timer .interval .start] }
  | .setResponseStatus status => .ok { shared := { s with responseStatus := status } }
  | .onResponseComplete =>
    let result : Op := if s.isHealthCheckSucceeded then .handleSuccess else .handleFailure .active
    .ok { shared := s, calls := [result, .setResponseStatus (-1)] }
  | .onResetStream =>
    if s.expectReset then .ok { shared := s }
    else .ok { shared := s, calls := [.handleFailure .network] }
  | .handleSuccess =>
    .ok { shared := { s with session := s.session.handleSuccess }, calls := restart }
  | .handleFailure fType =>
    .ok { shared := { s with session := s.session.setUnhealthy fType }, calls := restart }

end Heartbeat

/-! ## §2. The events. -/

/-- What the stream of a heartbeat receives. -/
inductive Frame where
  | headers (status : Option Int16) (endStream : Bool)
  | data (endStream : Bool)
  | trailers
  deriving Repr, DecidableEq

namespace Frame

def endStream : Frame → Bool
  | .headers _ endStream => endStream
  | .data endStream => endStream
  | .trailers => true

/-- `OnReceiveHeaders`, `OnReceiveData`, `OnReceiveTrailers`. -/
def receiver : Frame → List Op
  | .headers status endStream =>
    (status.map Op.setResponseStatus).toList ++ if endStream then [.onResponseComplete] else []
  | .data endStream => if endStream then [.onResponseComplete] else []
  | .trailers => [.onResponseComplete]

end Frame

/-- What happens next: the duration of a timer is over; a frame arrives for a
heartbeat, the first that ends its stream or one after that; a connection is
closed, which resets its active requests; a goroutine takes a step. -/
inductive Event where
  | expire (t : TimerName)
  | receive (first : Bool) (frame : Frame)
  | connectionClosed (requests : Nat)
  | execute (i : Nat) (o : Oracle)
  deriving Repr, DecidableEq

/-- The session and its goroutines. -/
abbrev Goroutines (κ : Type) := Pool (Heartbeat κ) Op

namespace Goroutines

variable {κ : Type}

/-- `none`: the event cannot happen now, or the process ends with it. -/
def step (s : Goroutines κ) : Event → Option (Goroutines κ)
  | .expire t =>
    if (s.shared.timers t).running then
      some { s with shared := s.shared.setTimer t (s.shared.timers t).expire }
    else none
  | .receive true frame =>
    if 0 < s.shared.active then
      let active := if frame.endStream then s.shared.active - 1 else s.shared.active
      some (Pool.fork { s with shared := { s.shared with active := active } } frame.receiver)
    else none
  | .receive false frame =>
    if s.shared.active < s.shared.sent then some (Pool.fork s frame.receiver) else none
  | .connectionClosed requests =>
    if requests ≤ s.shared.active then
      some (Pool.fork { s with shared := { s.shared with active := s.shared.active - requests } }
        (.replicate requests .onResetStream))
    else none
  | .execute i o =>
    match Pool.step (Heartbeat.exec o) s i with
    | some (.ok s') => some s'
    | some (.error _) => none
    | none => none

def Step (s : Goroutines κ) (e : Event) (s' : Goroutines κ) : Prop := s.step e = some s'

/-- A new session and `Start`.  `newSession` makes one that has no codec client;
`StartSofaHeartBeat` makes one, by `newSofaRPCHealthCheckSession`, on the client
it is given. -/
def started (hc : HealthChecker κ) (healthFlags : UInt64) (client : Bool) : Goroutines κ where
  shared := {
    session := newHealthCheckSession hc healthFlags
    timers := fun _ => newTimer
    client := client
    responseStatus := 0
    expectReset := false
    sent := 0
    active := 0 }
  threads := [[.onInterval]]

/-- No goroutine can take a step: each has ended or waits. -/
def Quiescent (s : Goroutines κ) : Prop :=
  ∀ thread ∈ s.threads, ∀ op rest, thread = op :: rest →
    ∀ o, Heartbeat.exec o s.shared op = .error .blocked

/-- The timer's inner timer runs, and its goroutine waits for it. -/
def Armed (s : Goroutines κ) (t : TimerName) : Prop :=
  (s.shared.timers t).running = true ∧
    ∃ thread ∈ s.threads, thread.head? = some (.timer t .select)

end Goroutines

end Mosn.HealthCheck
