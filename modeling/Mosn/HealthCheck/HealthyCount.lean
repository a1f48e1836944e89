/-
  Mosn.HealthCheck.HealthyCount
  **THE COUNTER OF HEALTHY HOSTS** (`pkg/upstream/healthcheck/healthchecker.go`).

  The sessions of a checker share its counter.  It should be the number of
  their hosts without the flag `FAILED_ACTIVE_HC`; it has 64 bits and no sign.
  A session that finds its host healthy counts DOWN when it is made:

      hosts              counter of a new checker, after one session
      one, not failed    2^64 - 1
      one, failed        0

  From then on it moves with the flag.

    • `counter_exact_iff` — the counter is exact as long as no session is made
      for a host that is healthy.
-/
import Mosn.HealthCheck.Session
import Mosn.Lib.Table

namespace Mosn.HealthCheck

open Mosn.Lib Mosn.Upstream

/-- A checker and its sessions.  What a session has of the checker is read from
`hc` before each result, and put back there. -/
structure Sessions (κ : Type) where
  hc : HealthChecker κ
  sessions : List (HealthCheckSession κ)

/-- A session for one more host with these flags; a result in session `i`. -/
inductive SessionsEvent where
  | newSession (healthFlags : UInt64)
  | result (i : Nat) (result : CheckResult)

namespace Sessions

variable {κ : Type}

def new (hc : HealthChecker κ) : Sessions κ := ⟨{ hc with localProcessHealthy := 0 }, []⟩

def step (s : Sessions κ) : SessionsEvent → Sessions κ
  | .newSession healthFlags =>
    let session := newHealthCheckSession s.hc healthFlags
    ⟨session.healthChecker, s.sessions ++ [session]⟩
  | .result i result =>
    match s.sessions[i]? with
    | none => s
    | some x =>
      let session := { x with healthChecker := s.hc }.onResult result
      ⟨session.healthChecker, s.sessions.modify i fun _ => session⟩

def run (hc : HealthChecker κ) (es : List SessionsEvent) : Sessions κ := es.foldl step (new hc)

/-- The hosts without the flag. -/
def healthyHosts (s : Sessions κ) : Nat := s.sessions.countP fun x => !x.failed

/-- The counter is their number; so it has not wrapped around. -/
def Exact (s : Sessions κ) : Prop := s.hc.localProcessHealthy.toNat = s.healthyHosts

theorem onResult_counter (x : HealthCheckSession κ) (result : CheckResult) :
    (x.onResult result).healthChecker.localProcessHealthy + .ofNat (if !x.failed then 1 else 0)
      = x.healthChecker.localProcessHealthy
        + .ofNat (if !(x.onResult result).failed then 1 else 0) := by
  have hclear := containHealthFlag_clear x.healthFlags .failedActiveHC
  have hset := containHealthFlag_set x.healthFlags .failedActiveHC
  cases result with
  | success =>
    simp only [HealthCheckSession.onResult, HealthCheckSession.handleSuccess]
    split_ifs <;> grind [HealthCheckSession.failed, HealthCheckSession.runCallbacks,
      HealthChecker.refreshHealthyStat, HealthChecker.incHealthy]
  | failure fType =>
    simp only [HealthCheckSession.onResult, HealthCheckSession.setUnhealthy]
    split_ifs <;> grind [HealthCheckSession.failed, HealthCheckSession.runCallbacks,
      HealthChecker.refreshHealthyStat, HealthChecker.decHealthy]

theorem counter_eq (hc : HealthChecker κ) (es : List SessionsEvent)
    (hfailed : ∀ healthFlags, .newSession healthFlags ∈ es →
      containHealthFlag healthFlags .failedActiveHC = true) :
    (run hc es).hc.localProcessHealthy = UInt64.ofNat (run hc es).healthyHosts := by
  induction es using List.reverseRecOn with
  | nil => rfl
  | append_singleton es e ih =>
    have hrest := ih fun flags hmem => hfailed flags (List.mem_append_left _ hmem)
    unfold run at hrest ⊢
    rw [List.foldl_append, List.foldl_cons, List.foldl_nil]
    generalize es.foldl step (new hc) = s at hrest
    cases e with
    | newSession healthFlags =>
      have hflag := hfailed healthFlags (by simp)
      simp [step, newHealthCheckSession, healthyHosts, hflag, HealthCheckSession.failed] at hrest ⊢
      exact hrest
    | result i result =>
      cases hx : s.sessions[i]? with
      | none => simpa only [step, hx] using hrest
      | some x =>
        simp only [step, hx, healthyHosts] at hrest ⊢
        -- the numbers of healthy hosts differ like the counters
        have hmove := onResult_counter { x with healthChecker := s.hc } result
        have hcount := congrArg UInt64.ofNat (countP_modify_add (fun x => !x.failed)
          (fun _ => { x with healthChecker := s.hc }.onResult result) hx)
        rw [UInt64.ofNat_add, UInt64.ofNat_add] at hcount
        rw [← hrest] at hcount
        exact (UInt64.add_left_inj _).mp (hmove.trans hcount.symm)

/-- **The counter is exact** after every event of a run exactly if no session
is made for a host without the flag, and fewer than `2^64` hosts are ever
healthy. -/
theorem counter_exact_iff (hc : HealthChecker κ) (es : List SessionsEvent) :
    (∀ n, (run hc (es.take n)).Exact)
      ↔ (∀ healthFlags, .newSession healthFlags ∈ es →
          containHealthFlag healthFlags .failedActiveHC = true)
        ∧ ∀ n, (run hc (es.take n)).healthyHosts < 2 ^ 64 := by
  constructor
  · intro hexact
    refine ⟨fun healthFlags hmem => ?_, fun n => (hexact n) ▸ UInt64.toNat_lt _⟩
    by_contra hhealthy
    rw [Bool.not_eq_true] at hhealthy
    obtain ⟨i, hi, he⟩ := List.getElem_of_mem hmem
    have hafter := hexact (i + 1)
    have hbefore := hexact i
    -- one healthy host more, and the counter goes down
    rw [← List.take_concat_get' _ _ hi, he] at hafter
    unfold Exact run at hafter hbefore
    rw [List.foldl_append, List.foldl_cons, List.foldl_nil] at hafter
    generalize (es.take i).foldl step (new hc) = s at hafter hbefore
    simp [step, newHealthCheckSession, healthyHosts, hhealthy, HealthCheckSession.failed,
      HealthChecker.decHealthy, HealthChecker.refreshHealthyStat, UInt64.toNat_sub]
      at hafter hbefore
    omega
  · rintro ⟨hfailed, hlt⟩ n
    unfold Exact
    rw [counter_eq hc _ fun flags hmem => hfailed flags (List.mem_of_mem_take hmem)]
    exact UInt64.toNat_ofNat_of_lt' (hlt n)

/-- **The first session of a healthy host** sets the counter to its largest
value. -/
theorem first_healthy_wraps :
    (run (⟨[], 0, 1, 1, {}⟩ : HealthChecker Unit) [.newSession 0]).hc.localProcessHealthy
        = 18446744073709551615
      ∧ (run (⟨[], 0, 1, 1, {}⟩ : HealthChecker Unit) [.newSession 0]).healthyHosts = 1 := by
  decide +kernel

end Sessions

end Mosn.HealthCheck
