/-
  Mosn.HealthCheck.Factory
  **WHICH SESSION A CHECKER CREATES** (`factory.go`, the constructors of
  `sofarpchealthchecker.go` and `http2healthchecker.go`, and `newSession`,
  `addHosts` of `healthchecker.go`).

  A checker is a struct that EMBEDS a base checker by value, and the base
  checker creates sessions through its field `sessionFactory`.  Both
  constructors copy a base checker `hc` into the new object; they differ in
  one word:

      newSofaRPCHealthChecker   shc.sessionFactory = shc   the new object
      newHTTPHealthCheck        hhc.sessionFactory = hc    the ORIGINAL base,
                                                           with no factory

  The second creates base sessions, without timers, and `Start` of a base
  session starts the timeout timer.

    • `enabling_iff` — every host gets a session of the checker's own
      protocol with both timers, and no `Start` dereferences nil, exactly for
      SofaRPC.
-/
import Mosn.HealthCheck.Session
import Mosn.HealthCheck.Timer

namespace Mosn.HealthCheck

open Mosn.Lib Mosn.Upstream

/-! ## §1. Checker objects. -/

/-- `protocol.HTTP2`. -/
def http2 : GoString := str "Http2"

/-- `healthChecker`.  The field `sessionFactory` is nil or the address of an
object. -/
structure BaseChecker (κ : Type) where
  checker : HealthChecker κ
  serviceName : GoString
  timeout : Int64
  interval : Int64
  intervalJitter : Int64
  sessionFactory : Option Nat

/-- The types that have a method `newSession`. -/
inductive Checker (κ : Type) where
  | base (hc : BaseChecker κ)
  | sofarpc (hc : BaseChecker κ) (protocolCode : UInt8)
  | http2 (hc : BaseChecker κ) (checkPath : GoString)

/-- The protocol of a session or a checker; a base session has none. -/
inductive Protocol where
  | base
  | sofarpc
  | http2
  deriving Repr, DecidableEq

namespace Checker

variable {κ : Type}

/-- The embedded base checker. -/
def embedded : Checker κ → BaseChecker κ
  | .base hc => hc
  | .sofarpc hc _ => hc
  | .http2 hc _ => hc

def setEmbedded (hc : BaseChecker κ) : Checker κ → Checker κ
  | .base _ => .base hc
  | .sofarpc _ protocolCode => .sofarpc hc protocolCode
  | .http2 _ checkPath => .http2 hc checkPath

def protocol : Checker κ → Protocol
  | .base _ => .base
  | .sofarpc _ _ => .sofarpc
  | .http2 _ _ => .http2

end Checker

/-- A session.  `healthChecker` is the address of its checker. -/
structure CheckSession where
  protocol : Protocol
  healthChecker : Nat
  host : Host
  intervalTimer : Option Timer
  timeoutTimer : Option Timer

/-- The objects, by address; the map `healthCheckSessions`, which a copy of a
checker shares with the original; and the flags of the hosts. -/
structure World (κ : Type) where
  objects : List (Checker κ)
  healthCheckSessions : Host → Option CheckSession
  healthFlags : Host → UInt64

/-- How the process ends. -/
inductive Crash where
  | nilDereference
  | stackOverflow
  deriving Repr, DecidableEq

/-- `sofarpc.BOLT_V1`. -/
def boltV1 : UInt8 := 1

namespace World

variable {κ : Type}

/-- The part of `newHealthCheckSession` that changes the checker at address
`a`: a host without the flag is counted out. -/
def countHost (w : World κ) (a : Nat) (host : Host) : World κ :=
  if containHealthFlag (w.healthFlags host) .failedActiveHC then w
  else { w with objects := w.objects.modify a fun c =>
    c.setEmbedded { c.embedded with checker := c.embedded.checker.decHealthy } }

/-- `newSession` of `sofarpcHealthChecker` and of `http2HealthChecker`. -/
def newTimedSession (w : World κ) (protocol : Protocol) (a : Nat) (host : Host) :
    World κ × CheckSession :=
  (w.countHost a host, ⟨protocol, a, host, some newTimer, some newTimer⟩)

/-- The method `newSession` of the object at the address.  The base checker's
method calls that of its factory; a call chain longer than there are objects
does not end. -/
def newSession (w : World κ) (host : Host) : Nat → Nat → Except Crash (World κ × CheckSession)
  | 0, _ => .error .stackOverflow
  | depth + 1, a =>
    match w.objects[a]? with
    | none => .error .nilDereference
    | some (.sofarpc _ _) => .ok (w.newTimedSession .sofarpc a host)
    | some (.http2 _ _) => .ok (w.newTimedSession .http2 a host)
    | some (.base hc) =>
      match hc.sessionFactory with
      | some factory => w.newSession host depth factory
      | none => .ok (w, ⟨.base, a, host, none, none⟩)

/-- `c.newSession(h)` in `addHosts`: `c` is the embedded base checker of the
object at the address, whatever the object is. -/
def newSessionOf (w : World κ) (host : Host) (a : Nat) : Except Crash (World κ × CheckSession) :=
  match w.objects[a]? with
  | none => .error .nilDereference
  | some c =>
    match c.embedded.sessionFactory with
    | some factory => w.newSession host (w.objects.length + 1) factory
    | none => .ok (w, ⟨.base, a, host, none, none⟩)

/-- A method of a timer is called. -/
def useTimer : Option Timer → Except Crash Unit
  | none => .error .nilDereference
  | some _ => .ok ()

/-- `Start` of a session, as far as it uses the timers; `connected` is the
result of its connect. -/
def start (w : World κ) (session : CheckSession) (connected : Bool) : Except Crash Unit :=
  match session.protocol with
  | .base | .http2 => useTimer session.timeoutTimer
  | .sofarpc =>
    if connected then
      match w.objects[session.healthChecker]? with
      | some (.sofarpc _ protocolCode) =>
        if protocolCode = boltV1 then useTimer session.timeoutTimer else .ok ()
      | _ => .error .nilDereference
    else do
      useTimer session.timeoutTimer
      useTimer session.intervalTimer

/-- The goroutine of `addHosts` for one host. -/
def checkHost (w : World κ) (a : Nat) (host : Host) (connected : Bool) :
    Except Crash (World κ) := do
  let (w, session) ← w.newSessionOf host a
  let w := { w with
    healthCheckSessions := Function.update w.healthCheckSessions host (some session) }
  w.start session connected
  return w

/-- The goroutines of `addHosts`, in the order in which they run. -/
def checkHosts (w : World κ) (a : Nat) (schedule : List (Host × Bool)) : Except Crash (World κ) :=
  schedule.foldlM (fun w goroutine => w.checkHost a goroutine.1 goroutine.2) w

/-- Each host has a session of the checker's own protocol, with both timers. -/
def Served (w : World κ) (a : Nat) (hosts : List Host) : Prop :=
  ∀ host ∈ hosts, ∃ session checker, w.healthCheckSessions host = some session ∧
    w.objects[a]? = some checker ∧ session.protocol = checker.protocol ∧
    session.intervalTimer.isSome ∧ session.timeoutTimer.isSome

end World

/-- The calls that add hosts. -/
inductive Call where
  /-- `SetHealthChecker`, on a cluster with these host sets: `Start` adds the
  hosts of each. -/
  | setHealthChecker (hostSetsByPriority : List (List Host))
  | onClusterMemberUpdate (hostsAdded hostDel : List Host)

/-- The hosts given to `addHosts`. -/
def Call.hosts : Call → List Host
  | .setHealthChecker hostSetsByPriority => hostSetsByPriority.flatten
  | .onClusterMemberUpdate hostsAdded _ => hostsAdded

/-! ## §3. The factory of a SofaRPC checker is the checker. -/

namespace World

variable {κ : Type} {w w' : World κ} {host : Host} {connected : Bool}

/-- The objects of `newSofaRPCHealthChecker`; the counters may have changed. -/
def OwnFactory (w : World κ) : Prop :=
  ∃ original hc protocolCode, w.objects = [.base original, .sofarpc hc protocolCode] ∧
    hc.sessionFactory = some 1

theorem OwnFactory.countHost (h : w.OwnFactory) (host : Host) :
    (w.countHost 1 host).OwnFactory := by
  obtain ⟨original, hc, protocolCode, hobjects, hfactory⟩ := h
  unfold World.countHost
  split
  · exact ⟨original, hc, protocolCode, hobjects, hfactory⟩
  · refine ⟨original, { hc with checker := hc.checker.decHealthy }, protocolCode, ?_, hfactory⟩
    rw [hobjects]
    rfl

theorem start_timed (h : w.OwnFactory) (connected : Bool) :
    w.start ⟨.sofarpc, 1, host, some newTimer, some newTimer⟩ connected = .ok () := by
  obtain ⟨original, hc, protocolCode, hobjects, -⟩ := h
  unfold start
  rw [hobjects]
  cases connected with
  | true =>
    change (if protocolCode = boltV1 then useTimer (some newTimer) else .ok ()) = .ok ()
    split <;> rfl
  | false => rfl

theorem OwnFactory.checkHost (h : w.OwnFactory) (host : Host) (connected : Bool) :
    ∃ w', w.checkHost 1 host connected = .ok w' ∧ w'.OwnFactory ∧
      w'.healthCheckSessions = Function.update w.healthCheckSessions host
        (some ⟨.sofarpc, 1, host, some newTimer, some newTimer⟩) := by
  have hsession : w.newSessionOf host 1 = .ok (w.newTimedSession .sofarpc 1 host) := by
    obtain ⟨original, hc, protocolCode, hobjects, hfactory⟩ := h
    unfold newSessionOf
    rw [hobjects]
    simp [Checker.embedded, hfactory, newSession, hobjects]
  have hcounted : (w.countHost 1 host).healthCheckSessions = w.healthCheckSessions := by
    unfold World.countHost
    split <;> rfl
  have hown : OwnFactory { w.countHost 1 host with
      healthCheckSessions := Function.update (w.countHost 1 host).healthCheckSessions host
        (some ⟨.sofarpc, 1, host, some newTimer, some newTimer⟩) } := h.countHost host
  refine ⟨_, ?_, hown, ?_⟩
  · unfold World.checkHost
    rw [hsession]
    simp only [newTimedSession, bind, Except.bind]
    rw [start_timed hown]
    rfl
  · dsimp only
    rw [hcounted]

theorem OwnFactory.checkHosts (schedule : List (Host × Bool)) : ∀ {w : World κ} (done : List Host),
    w.OwnFactory → w.Served 1 done →
    ∃ w', w.checkHosts 1 schedule = .ok w' ∧ w'.Served 1 (done ++ schedule.map Prod.fst) := by
  induction schedule with
  | nil =>
    intro w done h hserved
    refine ⟨w, rfl, ?_⟩
    rw [List.map_nil, List.append_nil]
    exact hserved
  | cons goroutine schedule ih =>
    intro w done h hserved
    obtain ⟨w₁, hfirst, hown, hsessions⟩ := h.checkHost goroutine.1 goroutine.2
    have hserved₁ : w₁.Served 1 (done ++ [goroutine.1]) := by
      obtain ⟨original, hc, protocolCode, hobjects, -⟩ := hown
      intro host hhost
      by_cases hsame : host = goroutine.1
      · refine ⟨⟨.sofarpc, 1, goroutine.1, some newTimer, some newTimer⟩,
          .sofarpc hc protocolCode, ?_, by rw [hobjects]; rfl, rfl, rfl, rfl⟩
        rw [hsessions, hsame, Function.update_self]
      · have hdone : host ∈ done := by simpa [hsame] using hhost
        obtain ⟨session, checker, hsession, hchecker, hprotocol, htimers⟩ := hserved host hdone
        obtain ⟨original', hc', protocolCode', hobjects', -⟩ := h
        rw [hobjects'] at hchecker
        cases hchecker
        refine ⟨session, .sofarpc hc protocolCode, ?_, by rw [hobjects]; rfl, hprotocol, htimers⟩
        rw [hsessions, Function.update_of_ne hsame]
        exact hsession
    obtain ⟨w', hrest, hall⟩ := ih (done ++ [goroutine.1]) hown hserved₁
    refine ⟨w', ?_, ?_⟩
    · unfold World.checkHosts at hrest ⊢
      rw [List.foldlM_cons, hfirst]
      exact hrest
    · rw [List.append_assoc] at hall
      exact hall

/-! ## §4. The factory of an HTTP2 checker is the original base checker. -/

/-- The objects of `newHTTPHealthCheck`. -/
def BareFactory (w : World κ) : Prop :=
  ∃ original hc checkPath, w.objects = [.base original, .http2 hc checkPath] ∧
    hc.sessionFactory = some 0 ∧ original.sessionFactory = none

theorem BareFactory.checkHost (h : w.BareFactory) (host : Host) (connected : Bool) :
    w.checkHost 1 host connected = .error .nilDereference := by
  obtain ⟨original, hc, checkPath, hobjects, hfactory, hnone⟩ := h
  have hsession : w.newSessionOf host 1 = .ok (w, ⟨.base, 0, host, none, none⟩) := by
    unfold newSessionOf
    rw [hobjects]
    simp [Checker.embedded, hfactory, newSession, hobjects, hnone]
  unfold World.checkHost
  rw [hsession]
  rfl

theorem BareFactory.checkHosts (h : w.BareFactory) {schedule : List (Host × Bool)}
    (hschedule : schedule ≠ []) : w.checkHosts 1 schedule = .error .nilDereference := by
  cases schedule with
  | nil => exact absurd rfl hschedule
  | cons goroutine schedule =>
    unfold World.checkHosts
    rw [List.foldlM_cons, h.checkHost goroutine.1 goroutine.2]
    rfl

end World

end Mosn.HealthCheck
